import WebrtcSample.Browser
import WebrtcSample.Codec
import WebrtcSample.Rendezvous

/-!
A page and a server, joined by a WebSocket connection.

The session of `WebrtcSample.Session` with the browser client in the place of the
C++ one: the user connects once, and everything the page does goes through the
script's globals. It is the same offer/answer exchange (`page_refines_exchange`),
in which the caller never says a candidate, since `onIceCandidate` only writes to
the page. A candidate is what the browser keeps of it, `RTCIceCandidate`.
-/

namespace WebrtcSample

open Exchange

/-! ### What a page says and takes in -/

namespace Browser

open JsClient

/-- What the script hands to its peer connection, as an item of the exchange. -/
def remoteItem : RemoteAction → Item Bytes RtcIceCandidate
  | .setRemoteDescription sdp => .description sdp
  | .addIceCandidate candidate => .candidate candidate

/-- An item of the server's, as the script hands it to its peer connection. -/
def remoteAction : Item Bytes Ice → RemoteAction
  | .description sdp => .setRemoteDescription sdp
  | .candidate ice => .addIceCandidate (.ofIce ice)

/-- A call that is part of the exchange. -/
def Act.isSignal : Act → Bool
  | .setLocalDescription _ _ | .socketSend _ _ | .remote _ _ => true
  | _ => false

def Act.offer? : Act → Option Bytes
  | .setLocalDescription _ sdp => some (utf8 sdp)
  | _ => none

namespace Tab

/-- The offers the page has made. It says nothing else. -/
def offers (tab : Tab) : List Bytes := tab.acts.filterMap Act.offer?

/-- What the page has handed to its peer connection as said by the server. -/
def taken (tab : Tab) : List (Item Bytes RtcIceCandidate) := tab.actions.map remoteItem

/-- The texts that went out on the open socket between two states. -/
def emitted (tab tab' : Tab) : List Bytes :=
  (tab'.acts.drop tab.acts.length).filterMap fun
    | .socketSend ws text => if tab.readyState ws = .open then some text else none
    | _ => none

end Tab

theorem remoteItem_remoteAction (item : Item Bytes Ice) :
    remoteItem (remoteAction item) = item.map .ofIce := by
  cases item <;> rfl

section Steps

variable {L : JsonLibs} {B : JsClient.WebIdl} {tab tab' : Tab} {ev : Event}

theorem acts_quiet (h : (machine L B).step tab ev = some tab')
    (notOffer : ∀ pc sdp, ev ≠ .offerCreated pc sdp)
    (notMessage : ∀ ws data, ev ≠ .socketMessage ws data) :
    ∃ more, tab'.acts = tab.acts ++ more ∧ ∀ a ∈ more, a.isSignal = false := by
  have same : ∀ {acts : List Act}, acts = tab.acts →
      ∃ more, acts = tab.acts ++ more ∧ ∀ a ∈ more, a.isSignal = false :=
    fun eq => ⟨[], by simp [eq], by simp⟩
  by_cases click : ∃ answer, ev = .clickSend answer
  · obtain ⟨answer, rfl⟩ := click
    cases sent_of_click h with
    | null _ | refused _ _ | declined _ _ _ => exact same rfl
    | text _ _ _ _ => exact ⟨_, rfl, by simp [Act.isSignal]⟩
    | @quit dc pc _ _ _ _ =>
        exact ⟨[.channelSend dc tab.typed, .closeChannel dc, .closePeer pc],
          by simp [Tab.left, Tab.sent], by simp [Act.isSignal]⟩
    | @lone dc _ _ _ _ =>
        exact ⟨[.channelSend dc tab.typed, .closeChannel dc], by simp [Tab.sent],
          by simp [Act.isSignal]⟩
  obtain ⟨-, rfl⟩ := step_eq h
  cases ev with
  | offerCreated pc sdp => exact absurd rfl (notOffer pc sdp)
  | socketMessage ws data => exact absurd rfl (notMessage ws data)
  | clickSend answer => exact absurd ⟨answer, rfl⟩ click
  | socketOpen ws =>
      simp only [Event.handler, run_onWebSocketOpen]
      exact same rfl
  | iceCandidate pc candidate => cases candidate <;> exact same rfl
  | iceConnectionState pc state =>
      simp only [Event.handler, Event.record, onIceConnectionStateChange, output]
      cases tab.peerConnection <;> exact same (by simp [settle])
  | _ => exact same rfl

theorem acts_message {ws : SocketId} {data : Bytes} {action : RemoteAction}
    (h : (machine L B).step tab (.socketMessage ws data) = some tab')
    (read : readMessage L B data = .ok action) :
    tab'.acts = tab.acts ++ (tab.peerConnection.map (Act.remote · action)).toList := by
  obtain ⟨-, rfl⟩ := step_eq h
  simp only [Event.handler, Event.record, onWebSocketMessage, read]
  cases peer : tab.peerConnection <;> simp [settle, act, peer]

/-- A call outside the exchange says nothing and takes nothing in. -/
theorem quiet_of_isSignal {a : Act} (quiet : a.isSignal = false) :
    a.offer? = none ∧ a.action? = none ∧ ∀ ws text, a ≠ .socketSend ws text := by
  cases a <;> simp_all [Act.isSignal, Act.offer?, Act.action?]

/-- An event that is neither an offer nor a message says nothing, takes nothing in
and sends nothing. -/
theorem quiet_of_step (h : (machine L B).step tab ev = some tab')
    (notOffer : ∀ pc sdp, ev ≠ .offerCreated pc sdp)
    (notMessage : ∀ ws data, ev ≠ .socketMessage ws data) :
    tab'.offers = tab.offers ∧ tab'.taken = tab.taken ∧ tab.emitted tab' = [] := by
  obtain ⟨more, acts, quiet⟩ := acts_quiet h notOffer notMessage
  refine ⟨?_, ?_, ?_⟩
  · rw [Tab.offers, Tab.offers, acts, List.filterMap_append, List.append_right_eq_self,
      List.filterMap_eq_nil_iff]
    exact fun a mem => (quiet_of_isSignal (quiet a mem)).1
  · have same : tab'.actions = tab.actions := by
      rw [Tab.actions, Tab.actions, acts, List.filterMap_append, List.append_right_eq_self,
        List.filterMap_eq_nil_iff]
      exact fun a mem => (quiet_of_isSignal (quiet a mem)).2.1
    rw [Tab.taken, Tab.taken, same]
  · rw [Tab.emitted, acts, List.drop_left, List.filterMap_eq_nil_iff]
    intro a mem
    have silent := (quiet_of_isSignal (quiet a mem)).2.2
    cases a with
    | socketSend ws text => exact absurd rfl (silent ws text)
    | _ => rfl

/-- The offer of an orderly page is said and, while the socket is open, sent. -/
theorem offer_of_step (inv : tab.routing.Orderly) {pc : PcId} {sdp : String}
    (h : (machine L B).step tab (.offerCreated pc sdp) = some tab') :
    tab'.offers = tab.offers ++ [utf8 sdp] ∧ tab'.taken = tab.taken ∧
      tab.emitted tab' = if tab.readyState (tab.opener pc) = .open
        then [JsClient.offerText L (utf8 sdp)] else [] := by
  have own : tab'.acts = _ := inv.own h
  refine ⟨?_, ?_, ?_⟩
  · simp [Tab.offers, own, Act.offer?, List.filterMap_cons]
  · simp [Tab.taken, Tab.actions, own, Act.action?, List.filterMap_cons]
  · rw [Tab.emitted, own, List.drop_left]
    split <;> simp [*]

/-- A message from the server is taken in while there is a peer connection. -/
theorem message_of_step {ws : SocketId} {data : Bytes} {item : Item Bytes Ice}
    (h : (machine L B).step tab (.socketMessage ws data) = some tab')
    (read : readMessage L B data = .ok (remoteAction item)) :
    tab'.offers = tab.offers ∧
      tab'.taken = tab.taken ++ (if tab.peerConnection.isSome then [item.map .ofIce] else []) ∧
      tab.emitted tab' = [] := by
  have acts := acts_message h read
  cases peer : tab.peerConnection with
  | none => simp [Tab.offers, Tab.taken, Tab.actions, Tab.emitted, acts, peer]
  | some pc =>
      simp [Tab.offers, Tab.taken, Tab.actions, Tab.emitted, acts, peer, Act.offer?, Act.action?,
        remoteItem_remoteAction, List.filterMap_cons]

end Steps

end Browser

/-! ### The session -/

structure PageSession where
  tab : Browser.Tab
  server : Process
  toServer : Fifo Bytes
  toPage : Fifo Bytes

namespace PageSession

inductive Action where
  /-- An event of the page that is not a message. -/
  | page (ev : Browser.Event)
  /-- A step of the server that is not a message. -/
  | server (ev : Event)
  | deliverPage
  | deliverServer

/-- The page's events in a session: the user connects once, and messages come from
the server. -/
def admits (tab : Browser.Tab) : Browser.Event → Bool
  | .clickConnect => tab.sockets = 0
  | .socketMessage _ _ => false
  | _ => true

def initial : PageSession := ⟨.initial, .initial, .empty, .empty⟩

/-- The page after a step, with what it sent on its way. -/
def withTab (s : PageSession) (tab : Browser.Tab) : PageSession :=
  { s with tab := tab, toServer := s.toServer.pushAll (s.tab.emitted tab) }

def withServer (s : PageSession) (p : Process) : PageSession :=
  { s with server := p.flushed, toPage := s.toPage.pushAll p.state.outbox }

/-- The direction towards the page after one of its events. -/
def arriving (link : Fifo Bytes) : Browser.Event → Fifo Bytes
  | .socketClosed _ => link.cut
  | _ => link

variable (L : JsonLibs) (B : JsClient.WebIdl) (W : WebRtc)

def step (s : PageSession) : Action → Option PageSession
  | .page ev =>
      if admits s.tab ev then
        ((Browser.machine L B).step s.tab ev).map fun tab =>
          { s.withTab tab with toPage := arriving s.toPage ev }
      else none
  | .server ev =>
      if ev.isSolo then
        (Process.step (Server.manager L W) s.server ev).map fun p =>
          { s.withServer p with toServer := Session.incoming s.toServer ev }
      else none
  | .deliverPage =>
      s.toPage.pop.bind fun (payload, rest) =>
        ((Browser.machine L B).step s.tab (.socketMessage 0 payload)).map fun tab =>
          { s.withTab tab with toPage := rest }
  | .deliverServer =>
      s.toServer.pop.bind fun (payload, rest) =>
        (Process.step (Server.manager L W) s.server (.wsMessage 0 payload)).map fun p =>
          { s.withServer p with toServer := rest }

/-- The session as an automaton. -/
def machine : Automaton PageSession Action := ⟨initial, step L B W⟩

section Simp

variable (s : PageSession) (tab : Browser.Tab) (p : Process)

@[simp] theorem withTab_tab : (s.withTab tab).tab = tab := rfl
@[simp] theorem withTab_server : (s.withTab tab).server = s.server := rfl

@[simp] theorem withTab_sent :
    (s.withTab tab).toServer.sent = s.toServer.sent ++ s.tab.emitted tab :=
  Fifo.pushAll_sent _ _

@[simp] theorem withTab_received : (s.withTab tab).toServer.received = s.toServer.received :=
  Fifo.pushAll_received _ _

@[simp] theorem withServer_server : (s.withServer p).server = p.flushed := rfl
@[simp] theorem withServer_tab : (s.withServer p).tab = s.tab := rfl

@[simp] theorem withServer_sent :
    (s.withServer p).toPage.sent = s.toPage.sent ++ p.signaling.outbox :=
  Fifo.pushAll_sent _ _

@[simp] theorem withServer_received : (s.withServer p).toPage.received = s.toPage.received :=
  Fifo.pushAll_received _ _

@[simp] theorem arriving_received (link : Fifo Bytes) (ev : Browser.Event) :
    (arriving link ev).received = link.received := by
  cases ev <;> rfl

@[simp] theorem arriving_sent (link : Fifo Bytes) (ev : Browser.Event) :
    (arriving link ev).sent = link.sent := by
  cases ev <;> rfl

end Simp

variable {L B W} {s t : PageSession}

/-- What each kind of action does. -/
theorem step_cases {a : Action} (h : step L B W s a = some t) :
    (∃ ev tab, a = .page ev ∧ admits s.tab ev = true ∧
        (Browser.machine L B).step s.tab ev = some tab ∧
        t = { s.withTab tab with toPage := arriving s.toPage ev }) ∨
      (∃ ev p, a = .server ev ∧ ev.isSolo = true ∧
        Process.step (Server.manager L W) s.server ev = some p ∧
        t = { s.withServer p with toServer := Session.incoming s.toServer ev }) ∨
      (∃ payload rest tab, a = .deliverPage ∧ s.toPage.pop = some (payload, rest) ∧
        (Browser.machine L B).step s.tab (.socketMessage 0 payload) = some tab ∧
        t = { s.withTab tab with toPage := rest }) ∨
      ∃ payload rest p, a = .deliverServer ∧ s.toServer.pop = some (payload, rest) ∧
        Process.step (Server.manager L W) s.server (.wsMessage 0 payload) = some p ∧
        t = { s.withServer p with toServer := rest } := by
  cases a with
  | page ev =>
      simp only [step, Option.ite_none_right_eq_some, Option.map_eq_some_iff] at h
      obtain ⟨admitted, tab, moved, rfl⟩ := h
      exact .inl ⟨ev, tab, rfl, admitted, moved, rfl⟩
  | server ev =>
      simp only [step, Option.ite_none_right_eq_some, Option.map_eq_some_iff] at h
      obtain ⟨solo, p, moved, rfl⟩ := h
      exact .inr (.inl ⟨ev, p, rfl, solo, moved, rfl⟩)
  | deliverPage =>
      simp only [step, Option.bind_eq_some_iff, Option.map_eq_some_iff] at h
      obtain ⟨⟨payload, rest⟩, popped, tab, moved, rfl⟩ := h
      exact .inr (.inr (.inl ⟨payload, rest, tab, rfl, popped, moved, rfl⟩))
  | deliverServer =>
      simp only [step, Option.bind_eq_some_iff, Option.map_eq_some_iff] at h
      obtain ⟨⟨payload, rest⟩, popped, p, moved, rfl⟩ := h
      exact .inr (.inr (.inr ⟨payload, rest, p, rfl, popped, moved, rfl⟩))

end PageSession

/-! ### The page as a caller -/

namespace Browser

/-- An event that answers a request for an offer. -/
def Event.offers : Event → Nat
  | .offerCreated _ _ => 1
  | _ => 0

/-- A page that connects once has at most one socket, one peer connection and one
offer. -/
structure Routing.Once (r : Routing) (told : Nat) : Prop where
  sockets : r.sockets ≤ 1
  peers : r.peers ≤ r.sockets
  connecting : ∀ ws < r.sockets, r.readyState ws = .connecting → r.peers = 0
  opened : ∀ ws < r.sockets, r.readyState ws = .open → r.peers = 1
  count : r.requests.length + told ≤ r.peers

theorem Routing.Once.step {r r' : Routing} {ev : Event} {told : Nat} (inv : r.Once told)
    (h : Routed r ev r') (first : ev = .clickConnect → r.sockets = 0) :
    r'.Once (told + ev.offers) := by
  cases h with
  | kept aside =>
      have none : ev.offers = 0 := by cases ev <;> first | rfl | cases aside
      rw [none]
      exact inv
  | connected =>
      have none := first rfl
      have unopened : r.peers = 0 := Nat.le_zero.mp (none ▸ inv.peers)
      refine ⟨by simp [none], inv.peers.trans (Nat.le_succ _), fun _ _ _ => unopened,
        fun ws lt isOpen => ?_, inv.count⟩
      have zero : ws = r.sockets := by
        have : ws < r.sockets + 1 := lt
        omega
      simp [zero] at isOpen
  | quitted _ => exact ⟨inv.sockets, inv.peers, inv.connecting, inv.opened, inv.count⟩
  | @opened ws known connecting =>
      have unopened := inv.connecting ws known connecting
      have count := inv.count
      refine ⟨inv.sockets, ?_, fun ws' lt connecting' => ?_, fun _ _ _ => by simp [unopened], ?_⟩
      · show r.peers + 1 ≤ r.sockets
        omega
      · have zero : ws' = ws := by
          have : ws' < r.sockets := lt
          have := inv.sockets
          omega
        simp [zero] at connecting'
      · simp only [Event.offers, List.length_append, List.length_singleton]
        omega
  | @closed ws =>
      refine ⟨inv.sockets, inv.peers, fun ws' lt connecting => ?_, fun ws' lt isOpen => ?_,
        inv.count⟩
      · by_cases same : ws' = ws
        · simp [same] at connecting
        · simp only [Function.update_of_ne same] at connecting
          exact inv.connecting ws' lt connecting
      · by_cases same : ws' = ws
        · simp [same] at isOpen
        · simp only [Function.update_of_ne same] at isOpen
          exact inv.opened ws' lt isOpen
  | answered pending =>
      have count := inv.count
      have positive := List.length_pos_of_mem pending
      refine ⟨inv.sockets, inv.peers, inv.connecting, inv.opened, ?_⟩
      simp only [Event.offers, List.length_erase_of_mem pending]
      omega
  | failed =>
      refine ⟨inv.sockets, inv.peers, inv.connecting, inv.opened, ?_⟩
      exact (Nat.add_le_add_right List.erase_sublist.length_le _).trans inv.count

/-- Peer connections are only made, and one that is current was so before or is the
first. -/
theorem Routing.Once.peer {r r' : Routing} {ev : Event} {told : Nat} (inv : r.Once told)
    (h : Routed r ev r') :
    r.peers ≤ r'.peers ∧ ∀ pc, r'.peerConnection = some pc →
      r.peerConnection = some pc ∨ r.peers = 0 := by
  cases h with
  | kept _ | connected | closed | answered _ | failed => exact ⟨le_rfl, fun _ same => .inl same⟩
  | quitted _ => exact ⟨le_rfl, fun _ same => (nomatch same)⟩
  | opened known connecting =>
      exact ⟨Nat.le_succ _, fun _ _ => .inr (inv.connecting _ known connecting)⟩

/-- The page as one side of a session: what it has sent is the offer it has said. -/
structure Caller (L : JsonLibs) (tab : Tab) (sent : List Bytes) : Prop where
  bounded : tab.routing.Bounded
  orderly : tab.routing.Orderly
  once : tab.routing.Once tab.offers.length
  sent : sent = [] ∨ ∃ sdp : String, tab.offers = [utf8 sdp] ∧
    sent = [JsClient.offerText L (utf8 sdp)]

variable {L : JsonLibs} {B : JsClient.WebIdl} {tab tab' : Tab} {ev : Event}
  {sent : List Bytes}

theorem caller_initial : Caller L .initial [] where
  bounded := bounded_initial
  orderly := orderly_initial
  once := ⟨Nat.zero_le 1, le_rfl, fun _ lt => absurd lt (Nat.not_lt_zero _),
    fun _ lt => absurd lt (Nat.not_lt_zero _), le_rfl⟩
  sent := .inl rfl

/-- A first click finds nothing under way. -/
theorem Caller.settled (inv : Caller L tab sent) (none : tab.sockets = 0) :
    tab.routing.Settled := by
  have unopened : tab.peers ≤ tab.sockets := inv.once.peers
  refine ⟨fun ws lt => absurd (lt_of_lt_of_eq lt none) (Nat.not_lt_zero ws), fun pc _ live => ?_⟩
  exact absurd (lt_of_lt_of_le live.1 (unopened.trans none.le)) (Nat.not_lt_zero pc)

/-- A page that is making an offer has said nothing. -/
theorem Caller.silent (inv : Caller L tab sent) {pc : PcId} (pending : pc ∈ tab.requests) :
    tab.offers = [] ∧ sent = [] := by
  have bound : tab.peers ≤ 1 := le_trans inv.once.peers inv.once.sockets
  have count : tab.requests.length + tab.offers.length ≤ tab.peers := inv.once.count
  have positive := List.length_pos_of_mem pending
  have none : tab.offers = [] := List.eq_nil_of_length_eq_zero (by omega)
  refine ⟨none, ?_⟩
  rcases inv.sent with empty | ⟨sdp, offers, -⟩
  · exact empty
  · simp [none] at offers

theorem Routed.message {r r' : Routing} {ws : SocketId} {data : Bytes}
    (h : Routed r (.socketMessage ws data) r') : r' = r := by
  cases h
  rfl

/-- A message leaves the page's own side of the exchange alone. -/
theorem Caller.message (inv : Caller L tab sent) {ws : SocketId} {data : Bytes}
    (h : (machine L B).step tab (.socketMessage ws data) = some tab')
    (offers : tab'.offers = tab.offers) (emitted : tab.emitted tab' = []) :
    Caller L tab' (sent ++ tab.emitted tab') := by
  have same := (routed_of_step h).message
  refine ⟨same ▸ inv.bounded, same ▸ inv.orderly, by rw [same, offers]; exact inv.once, ?_⟩
  rw [emitted, offers, List.append_nil]
  exact inv.sent

/-- What the page says is at most one offer. -/
theorem Caller.step (inv : Caller L tab sent)
    (h : (machine L B).step tab ev = some tab')
    (first : ev = .clickConnect → tab.sockets = 0)
    (notMessage : ∀ ws data, ev ≠ .socketMessage ws data) :
    Caller L tab' (sent ++ tab.emitted tab') := by
  have routed := routed_of_step h
  have bounded := inv.bounded.step routed
  have orderly := inv.orderly.step inv.bounded routed fun click => inv.settled (first click)
  have once := inv.once.step routed first
  by_cases offer : ∃ pc sdp, ev = .offerCreated pc sdp
  · obtain ⟨pc, sdp, rfl⟩ := offer
    obtain ⟨offers, -, emitted⟩ := offer_of_step inv.orderly h
    have enabled := (step_eq h).1
    simp only [Event.enabled, decide_eq_true_eq] at enabled
    obtain ⟨silent, empty⟩ := inv.silent enabled.1
    refine ⟨bounded, orderly, by simpa [offers, Event.offers] using once, ?_⟩
    rw [emitted, empty, offers, silent]
    split
    · exact .inr ⟨sdp, rfl, rfl⟩
    · exact .inl rfl
  · have notOffer : ∀ pc sdp, ev ≠ .offerCreated pc sdp := fun pc sdp eq => offer ⟨pc, sdp, eq⟩
    obtain ⟨offers, -, emitted⟩ := quiet_of_step h notOffer notMessage
    have none : ev.offers = 0 := by
      cases ev with
      | offerCreated pc sdp => exact absurd rfl (notOffer pc sdp)
      | _ => rfl
    refine ⟨bounded, orderly, by simpa [offers, none] using once, ?_⟩
    rw [emitted, offers, List.append_nil]
    exact inv.sent

end Browser

/-! ### The invariant of the session -/

/-- The next message of a server says the next thing it has said, and the script
reads it. -/
theorem Speaker.next_told {L : JsonLibs} {B : JsClient.WebIdl} {p : Process}
    {sent received rest : List Bytes} {payload : Bytes}
    (speaker : Speaker L (answerMessage L) p sent)
    (order : received ++ payload :: rest <+: sent) :
    ∃ item, p.told[received.length]? = some item ∧
      JsClient.readMessage L B payload = .ok (Browser.remoteAction item) := by
  by_cases first : received = []
  · rw [first, List.nil_append] at order
    obtain ⟨desc, said, rfl⟩ := speaker.first_payload order
    exact ⟨.description (utf8 desc.text), by simp [first, told_of_script said],
      JsClient.readMessage_answerMessage desc.text⟩
  · obtain ⟨ice, found, text, rfl⟩ := speaker.later_payload order first
    refine ⟨.candidate ice, ?_, JsClient.readMessage_toJsonString text⟩
    cases speaker.told with
    | nothing _ ices => simp [ices] at found
    | spoke desc _ _ said =>
        obtain ⟨n, length⟩ : ∃ n, received.length = n + 1 :=
          Nat.exists_eq_succ_of_ne_zero (by simpa using first)
        simp only [length, Nat.add_sub_cancel] at found
        simp [told_of_script said, length, found]

namespace PageSession

/-- The server takes in the offer or ends. -/
inductive Answers (s : PageSession) : Prop where
  | nothing (received : s.toServer.received = []) (heard : s.server.signaling.heard = [])
  | offer (received : s.toServer.received ≠ [])
      (order : s.server.taken <+: s.tab.offers.map .description)
      (taken : s.server.phase.alive = true → s.server.taken ≠ [])

/-- The page says its offer, the server its answer and its candidates, and each takes
in what the other said. -/
structure Inv (L : JsonLibs) (s : PageSession) : Prop where
  page : Browser.Caller L s.tab s.toServer.sent
  server : Speaker L (answerMessage L) s.server s.toPage.sent
  serverPeer : s.server.phase.alive = true → s.server.signaling.heard = [] →
    s.server.signaling.peers = 0
  toServer : Answers s
  fresh : s.tab.peers = 0 → s.toPage.received = [] ∧ s.tab.taken = []
  attentive : ∀ pc, s.tab.peerConnection = some pc →
    s.tab.taken.length = s.toPage.received.length
  toPage : s.tab.taken <+: s.server.told.map (Item.map .ofIce)

variable {L : JsonLibs} {B : JsClient.WebIdl} {W : WebRtc}
  {s t : PageSession} {p : Process} {tab : Browser.Tab}

theorem inv_initial : Inv L initial where
  page := Browser.caller_initial
  server := ⟨rfl, by decide, by decide, by decide, fun _ => rfl, .inl rfl, .nothing rfl rfl rfl rfl⟩
  serverPeer _ _ := rfl
  toServer := .nothing rfl rfl
  fresh _ := ⟨rfl, rfl⟩
  attentive _ same := nomatch same
  toPage := List.nil_prefix

/-- Whatever the page says later, the server's part stays as it is. -/
theorem Answers.of_page {tab : Browser.Tab} {toServer toPage : Fifo Bytes} (inv : Answers s)
    (received : toServer.received = s.toServer.received)
    (offers : s.tab.offers <+: tab.offers) :
    Answers ⟨tab, s.server, toServer, toPage⟩ := by
  cases inv with
  | nothing none heard => exact .nothing (received.trans none) heard
  | offer some order taken => exact .offer (received ▸ some) (order.trans (offers.map _)) taken

/-- An event of the page. -/
theorem Inv.page_act (inv : Inv L s) {ev : Browser.Event} (admitted : admits s.tab ev = true)
    (h : (Browser.machine L B).step s.tab ev = some tab) :
    Inv L { s.withTab tab with toPage := arriving s.toPage ev } := by
  have first : ev = .clickConnect → s.tab.sockets = 0 := by
    rintro rfl
    simpa [admits] using admitted
  have notMessage : ∀ ws data, ev ≠ .socketMessage ws data := by
    rintro ws data rfl
    cases admitted
  have said : s.tab.offers <+: tab.offers ∧ tab.taken = s.tab.taken := by
    by_cases offer : ∃ pc sdp, ev = .offerCreated pc sdp
    · obtain ⟨pc, sdp, rfl⟩ := offer
      obtain ⟨offers, taken, -⟩ := Browser.offer_of_step inv.page.orderly h
      exact ⟨offers ▸ List.prefix_append _ _, taken⟩
    · obtain ⟨offers, taken, -⟩ :=
        Browser.quiet_of_step h (fun pc sdp eq => offer ⟨pc, sdp, eq⟩) notMessage
      exact ⟨offers ▸ List.prefix_rfl, taken⟩
  obtain ⟨peers, current⟩ := inv.page.once.peer (Browser.routed_of_step h)
  refine
    { page := by simpa using inv.page.step h first notMessage
      server := by simpa using inv.server
      serverPeer := inv.serverPeer
      toServer := inv.toServer.of_page (by simp) said.1
      fresh := fun none => ?_
      attentive := fun pc same => ?_
      toPage := by simpa [said.2] using inv.toPage }
  · have before : s.tab.peers = 0 := Nat.le_zero.mp (le_of_le_of_eq peers none)
    simpa [said.2] using inv.fresh before
  · simp only [withTab_tab, said.2, arriving_received]
    rcases current pc same with before | none
    · exact inv.attentive pc before
    · obtain ⟨received, taken⟩ := inv.fresh none
      rw [received, taken]
      rfl

/-- A message that reached the page. -/
theorem Inv.page_deliver (inv : Inv L s)
    {payload : Bytes} {rest : Fifo Bytes} (popped : s.toPage.pop = some (payload, rest))
    (h : (Browser.machine L B).step s.tab (.socketMessage 0 payload) = some tab) :
    Inv L { s.withTab tab with toPage := rest } := by
  obtain ⟨-, received, sent, -⟩ := Fifo.pop_eq_some popped
  obtain ⟨item, next, read⟩ := inv.server.next_told (B := B) (Session.order_of_pop popped)
  obtain ⟨offers, taken, emitted⟩ := Browser.message_of_step h read
  have routing := (Browser.routed_of_step h).message
  have enabled := (Browser.step_eq h).1
  simp only [Browser.Event.enabled, decide_eq_true_eq] at enabled
  have one : tab.peers = 1 :=
    (congrArg Browser.Routing.peers routing).trans (inv.page.once.opened 0 enabled.1 enabled.2)
  have current : tab.peerConnection = s.tab.peerConnection :=
    congrArg Browser.Routing.peerConnection routing
  refine
    { page := by simpa using inv.page.message h offers emitted
      server := by simpa [sent] using inv.server
      serverPeer := inv.serverPeer
      toServer := inv.toServer.of_page (by simp) (offers ▸ List.prefix_rfl)
      fresh := fun none => absurd (none.symm.trans one) Nat.zero_ne_one
      attentive := fun pc same => ?_
      toPage := ?_ }
  · have before : s.tab.peerConnection = some pc := current.symm.trans same
    simp [taken, before, received, inv.attentive pc before]
  · show tab.taken <+: s.server.told.map (Item.map .ofIce)
    rw [taken]
    cases before : s.tab.peerConnection with
    | none => simpa using inv.toPage
    | some pc =>
        rw [← inv.attentive pc before] at next
        have kept : (s.server.told.map (Item.map JsClient.RtcIceCandidate.ofIce))[
            s.tab.taken.length]? = some (item.map .ofIce) := by
          rw [List.getElem?_map, next, Option.map_some]
        simpa using prefix_concat_of_getElem? inv.toPage kept

/-- A step of the server that opens its connection or is its own. -/
theorem Inv.server_act (inv : Inv L s) {ev : Event} (solo : ev.isSolo = true)
    (h : Process.step (Server.manager L W) s.server ev = some p) :
    Inv L { s.withServer p with toServer := Session.incoming s.toServer ev } := by
  have alive := Process.alive_of_step h
  have assemble : Speaker L (answerMessage L) p.flushed (s.toPage.sent ++ p.signaling.outbox) →
      p.signaling.heard = s.server.signaling.heard →
      (p.signaling.peers = s.server.signaling.peers) → s.server.told <+: p.told →
      Inv L { s.withServer p with toServer := Session.incoming s.toServer ev } := by
    intro speaker heard peers told
    have taken : p.taken = s.server.taken := Process.taken_of_heard heard
    refine
      { page := by simpa using inv.page
        server := by simpa using speaker
        serverPeer := fun _ none => peers.trans (inv.serverPeer alive (heard.symm.trans none))
        toServer := ?_
        fresh := by simpa using inv.fresh
        attentive := by simpa using inv.attentive
        toPage := inv.toPage.trans (told.map _) }
    cases inv.toServer with
    | nothing none heard' => exact .nothing (by simp [none]) (by simpa [heard] using heard')
    | offer some order took =>
        exact .offer (by simpa using some) (by simpa [taken] using order)
          fun _ => by simpa [taken] using took alive
  rcases Session.isLocal_of_isSolo solo with rfl | isLocal
  · obtain ⟨absent, conn, same⟩ := Server.signaling_open h
    have none := inv.server.fresh absent
    refine assemble (inv.server.begun none (by simp [conn]) same inv.server.one (by simp [none])
      (.inl (inv.server.fresh_silent none).1)) (by rw [same]) (by rw [same]) ?_
    rw [Process.told_of_said (by rw [same]) (by rw [same])]
  · have move := local_of_step (Server.speaks L W) isLocal h
    obtain ⟨heard, peers⟩ := move.heard_eq
    apply assemble (inv.server.local_step alive move) heard peers
    rw [inv.server.told_step alive move]
    exact List.prefix_append _ _

/-- The offer reaches the server. -/
theorem Inv.server_deliver (inv : Inv L s) {payload : Bytes} {rest : Fifo Bytes}
    (popped : s.toServer.pop = some (payload, rest))
    (h : Process.step (Server.manager L W) s.server (.wsMessage 0 payload) = some p) :
    Inv L { s.withServer p with toServer := rest } := by
  have alive := Process.alive_of_step h
  have order := Session.order_of_pop popped
  obtain ⟨-, received, sent, -⟩ := Fifo.pop_eq_some popped
  -- The page has sent one message, so this is it.
  obtain ⟨sdp, offers, first, rfl⟩ : ∃ sdp : String, s.tab.offers = [utf8 sdp] ∧
      s.toServer.received = [] ∧ payload = JsClient.offerText L (utf8 sdp) := by
    rcases inv.page.sent with empty | ⟨sdp, offers, one⟩
    · simp [empty] at order
    · rw [one] at order
      obtain ⟨tail, eq⟩ := order
      match arrived : s.toServer.received with
      | [] => exact ⟨sdp, offers, rfl, by simp_all⟩
      | _ :: _ => simp [arrived] at eq
  have unheard : s.server.signaling.heard = [] := by
    cases inv.toServer with
    | nothing _ heard => exact heard
    | offer some => exact absurd first some
  have none := inv.serverPeer alive unheard
  obtain ⟨requests, silent⟩ := inv.server.fresh_silent none
  obtain ⟨conn, outcome⟩ := Server.signaling_offer (request_offerText sdp) h
  have present : p.conn ≠ .absent := by
    rw [conn]
    rcases Session.present_of_message h with up | up <;> simp [up]
  obtain ⟨said, ices⟩ := Server.signaling_message h
  have same : p.told = s.server.told := Process.told_of_said said ices
  have assemble : Speaker L (answerMessage L) p.flushed (s.toPage.sent ++ p.signaling.outbox) →
      p.taken <+: [.description (utf8 sdp)] → (p.phase.alive = true → p.taken ≠ []) →
      Inv L { s.withServer p with toServer := rest } := by
    intro speaker order took
    exact
      { page := by simpa [sent] using inv.page
        server := by simpa using speaker
        serverPeer := fun live none => absurd
          (by rw [Process.taken_eq]; exact congrArg (List.filterMap Call.taken?) none) (took live)
        toServer :=
          .offer (by simp [received]) (by simpa [offers] using order) (by simpa using took)
        fresh := by simpa using inv.fresh
        attentive := by simpa using inv.attentive
        toPage := by simpa [same] using inv.toPage }
  rcases outcome with ⟨remote, parsed, same⟩ | ⟨ended, pc, peers, heard, bound, head, same⟩
  · have taken : p.taken = [.description (utf8 sdp)] := by
      simp [Process.taken_eq, same, unheard, Call.taken?, List.filterMap_cons]
    exact assemble (inv.server.begun none present same (by omega) (fun _ _ => by rw [none])
      (.inr ⟨by simp [requests, none], by omega⟩)) (by simp [taken]) (by simp [taken])
  · refine assemble (inv.server.begun none present same (by omega) (by simp [ended])
      (.inl requests)) ?_ (by simp [ended])
    rw [Process.taken_eq, same, unheard]
    exact head.filterMap Call.taken?

/-- **The invariant survives every action.** -/
theorem Inv.step (inv : Inv L s) {a : Action}
    (h : PageSession.step L B W s a = some t) : Inv L t := by
  rcases step_cases h with ⟨ev, tab, rfl, admitted, moved, rfl⟩ | ⟨ev, p, rfl, solo, moved, rfl⟩ |
    ⟨payload, rest, tab, rfl, popped, moved, rfl⟩ | ⟨payload, rest, p, rfl, popped, moved, rfl⟩
  · exact inv.page_act admitted moved
  · exact inv.server_act solo moved
  · exact inv.page_deliver popped moved
  · exact inv.server_deliver popped moved

/-! ### The refinement -/

/-- A session as the exchange sees it, with the server's candidates as a browser keeps
them. -/
def abs (s : PageSession) : State Bytes JsClient.RtcIceCandidate :=
  ⟨⟨s.tab.offers.map .description, s.tab.taken⟩,
    ⟨s.server.told.map (Item.map .ofIce), s.server.taken.map (Item.map .ofIce)⟩⟩

/-- The same with the candidates as the server has them: the page has taken in so many
of the things the server has said. -/
def whole (s : PageSession) : State Bytes Ice :=
  ⟨⟨s.tab.offers.map .description, s.server.told.take s.tab.taken.length⟩,
    ⟨s.server.told, s.server.taken⟩⟩

/-- What an action is for the exchange. -/
def move (s : PageSession) (a : Action) (t : PageSession) : Option (Move Bytes Ice) :=
  match a with
  | .page (.offerCreated _ sdp) => some (.describe .caller (utf8 sdp))
  | .page _ => none
  | .server ev => ev.move .callee
  | .deliverPage =>
      if t.tab.taken.length = s.tab.taken.length then none else some (.take .caller)
  | .deliverServer => takes s.server t.server .callee

def label (s : PageSession) (a : Action) (t : PageSession) :
    Option (Move Bytes JsClient.RtcIceCandidate) :=
  (move s a t).map (Move.map .ofIce)

theorem Inv.abs_eq (inv : Inv L s) : abs s = (whole s).map .ofIce := by
  have taken : (s.server.told.take s.tab.taken.length).map (Item.map .ofIce) = s.tab.taken := by
    rw [List.map_take, ← List.prefix_iff_eq_take.mp inv.toPage]
  simp [abs, whole, State.map, Party.map, taken, Item.map, Function.comp_def]

/-- A live server with a peer connection has taken in the offer. -/
theorem Inv.maySpeak (inv : Inv L s) (alive : s.server.phase.alive = true)
    (peer : s.server.signaling.peers = 1) : (whole s).maySpeak .callee = true := by
  have some : s.server.taken ≠ [] := by
    cases inv.toServer with
    | nothing _ heard =>
        have := inv.serverPeer alive heard
        omega
    | offer _ _ took => exact took alive
  simpa [State.maySpeak, whole] using some

theorem Inv.advance_page (inv : Inv L s) {ev : Browser.Event} (admitted : admits s.tab ev = true)
    (h : (Browser.machine L B).step s.tab ev = some tab) :
    (Exchange.machine Bytes Ice).advance (whole s) (move s (.page ev) t) =
      some (whole { s with tab := tab }) := by
  have quiet : (∀ pc sdp, ev ≠ .offerCreated pc sdp) →
      some (whole s) = some (whole { s with tab := tab }) := by
    intro notOffer
    obtain ⟨offers, taken, -⟩ := Browser.quiet_of_step h notOffer (by
      rintro ws data rfl
      cases admitted)
    simp only [whole, offers, taken]
  cases ev with
  | offerCreated pc sdp =>
      obtain ⟨offers, taken, -⟩ := Browser.offer_of_step inv.page.orderly h
      have enabled := (Browser.step_eq h).1
      simp only [Browser.Event.enabled, decide_eq_true_eq] at enabled
      have silent := (inv.page.silent enabled.1).1
      show Exchange.step (whole s) (.describe .caller (utf8 sdp)) = _
      simp [Exchange.step, whole, State.party, State.set, State.maySpeak, offers, taken, silent]
  | _ => exact quiet (by simp)

/-- What the server says more does not change what the page has taken in. -/
theorem Inv.whole_server (inv : Inv L s) (told : s.server.told <+: p.told) :
    (whole s).set ⟨p.told, p.taken⟩ .callee = whole { s with server := p.flushed } := by
  have bound : s.tab.taken.length ≤ s.server.told.length := by
    simpa using inv.toPage.length_le
  have same : s.server.told.take s.tab.taken.length = p.told.take s.tab.taken.length := by
    obtain ⟨rest, eq⟩ := told
    rw [← eq, List.take_append_of_le_length bound]
  simp [whole, State.set, same]

/-- **Every action is a move of the exchange or none.** -/
theorem Inv.advance_whole (inv : Inv L s) {a : Action}
    (h : PageSession.step L B W s a = some t) :
    (Exchange.machine Bytes Ice).advance (whole s) (move s a t) = some (whole t) := by
  have next := inv.step h
  rcases step_cases h with ⟨ev, tab, rfl, admitted, moved, rfl⟩ | ⟨ev, p, rfl, solo, moved, rfl⟩ |
    ⟨payload, rest, tab, rfl, popped, moved, rfl⟩ | ⟨payload, rest, p, rfl, popped, moved, rfl⟩
  · exact inv.advance_page admitted moved
  · rcases Session.isLocal_of_isSolo solo with rfl | isLocal
    · obtain ⟨-, -, same⟩ := Server.signaling_open moved
      have told := Process.told_of_said (p := s.server) (q := p) (by rw [same]) (by rw [same])
      have stays := advance_none (x := whole s) (q := p) .callee rfl told
        (Process.taken_of_heard (by rw [same]))
      rwa [inv.whole_server (told ▸ List.prefix_rfl)] at stays
    · have alive := Process.alive_of_step moved
      have move := local_of_step (Server.speaks L W) isLocal moved
      have speaks := inv.server.advance (x := whole s) (q := p) .callee alive move rfl
        fun peer => inv.maySpeak alive peer
      rwa [inv.whole_server (by
        rw [inv.server.told_step alive move]
        exact List.prefix_append _ _)] at speaks
  · obtain ⟨item, found, read⟩ := inv.server.next_told (B := B) (Session.order_of_pop popped)
    obtain ⟨offers, taken, -⟩ := Browser.message_of_step moved read
    cases current : s.tab.peerConnection with
    | none =>
        have same : tab.taken = s.tab.taken := by simpa [current] using taken
        simp [move, same, whole, offers, Automaton.advance]
    | some pc =>
        have grown : tab.taken = s.tab.taken ++ [item.map .ofIce] := by
          simpa [current] using taken
        rw [← inv.attentive pc current] at found
        have takes : move s .deliverPage { s.withTab tab with toPage := rest } =
            some (.take .caller) := by
          simp [move, grown]
        have bound : s.tab.taken.length ≤ s.server.told.length := by
          simpa using inv.toPage.length_le
        rw [takes]
        show Exchange.step (whole s) (.take .caller) = _
        simp [Exchange.step, whole, State.party, State.other, State.set, found, grown, offers,
          Nat.min_eq_left bound, List.take_add_one]
  · obtain ⟨said, ices⟩ := Server.signaling_message moved
    have told := Process.told_of_said said ices
    have hears := (Server.takesOne_of_message moved).advance (x := whole s) .callee rfl told (by
      obtain ⟨-, received, -⟩ := Fifo.pop_eq_some popped
      cases next.toServer with
      | nothing none => simp [received] at none
      | offer _ order => exact order)
    rwa [inv.whole_server (told ▸ List.prefix_rfl)] at hears

theorem Inv.advance (inv : Inv L s) {a : Action} (h : PageSession.step L B W s a = some t) :
    (Exchange.machine Bytes JsClient.RtcIceCandidate).advance (abs s) (label s a t) =
      some (abs t) := by
  rw [inv.abs_eq, (inv.step h).abs_eq]
  exact advance_map _ (inv.advance_whole h)

/-- The session refines the exchange. -/
def refinement (L : JsonLibs) (B : JsClient.WebIdl) (W : WebRtc) :
    (machine L B W).Refinement (Exchange.machine Bytes JsClient.RtcIceCandidate) where
  abs := abs
  label := label
  Inv := Inv L
  inv_init := inv_initial
  inv_step := fun _ _ _ inv h => inv.step h
  abs_init := rfl
  simulates := fun _ _ _ inv h => inv.advance h

end PageSession

/-- **A page and a server make an offer/answer exchange.** Every run of the session is a
run of the exchange, which ends with what page and server have said and taken in, the
candidates as a browser keeps them; the two agree, and the page has said nothing but its
offer. -/
theorem page_refines_exchange {L : JsonLibs} {B : JsClient.WebIdl} {W : WebRtc}
    {es : List PageSession.Action} {s : PageSession}
    (run : (PageSession.machine L B W).run es = some s) :
    (Exchange.machine Bytes JsClient.RtcIceCandidate).run
        ((PageSession.refinement L B W).trace es) = some s.abs ∧
      s.abs.Agrees ∧ s.tab.offers.length ≤ 1 := by
  have inv := Automaton.runFrom_invariant (I := PageSession.Inv L)
    (fun _ _ _ inv h => inv.step h) PageSession.inv_initial run
  have count : s.tab.requests.length + s.tab.offers.length ≤ s.tab.peers := inv.page.once.count
  have bound : s.tab.peers ≤ 1 := le_trans inv.page.once.peers inv.page.once.sockets
  refine ⟨Automaton.Refinement.run_trace (r := PageSession.refinement L B W) run,
    Automaton.Refinement.invariant (r := PageSession.refinement L B W)
      (fun _ reach => agrees_of_reachable reach) ⟨es, run⟩, by omega⟩

/-- A page whose offer is answered with a candidate. -/
def PageSession.visit : List PageSession.Action :=
  [.server (.wsOpen 0), .page .clickConnect, .page (.socketOpen 0),
    .page (.offerCreated 0 "v=0"), .page (.iceCandidate 0 true), .deliverServer,
    .server (.callback (.sdpCreated 0 ⟨.answer, "v=0"⟩)),
    .server (.callback (.iceCandidate 0 ⟨"candidate:1", "0", 0⟩)), .deliverPage, .deliverPage]

theorem page_refines_exchange_visit :
    ∃ s, (PageSession.machine .reference .reference .reference).run PageSession.visit =
        some s ∧
      s.abs.Agrees ∧ s.server.taken.length = 1 ∧
      s.tab.taken = [.description (utf8 "v=0"),
        .candidate ⟨utf8 "candidate:1", some (utf8 "0"), some 0⟩] := by
  have checked : ((PageSession.machine .reference .reference .reference).run
      PageSession.visit).any
        (fun s => s.server.taken.length = 1 ∧ s.tab.taken = [.description (utf8 "v=0"),
          .candidate ⟨utf8 "candidate:1", some (utf8 "0"), some 0⟩]) = true := by
    decide +kernel
  obtain ⟨s, run, facts⟩ := (Option.any_eq_true _ _).mp checked
  obtain ⟨offer, answer⟩ := of_decide_eq_true facts
  exact ⟨s, run, (page_refines_exchange run).2.1, offer, answer⟩

end WebrtcSample
