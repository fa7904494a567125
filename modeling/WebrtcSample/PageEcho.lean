import WebrtcSample.PageSession
import WebrtcSample.Echo

/-!
The echo protocol with the page as the client.

The script has no loop that stops at `exit`: every click on `send` hands over what
is in the text area, and `quit` takes the channel away. It compares UTF-16 text with
`exit` where the server compares bytes, and the two comparisons agree, so the page
quits exactly when it has told the server to stop (`page_echo`). What comes back is
written to the page in the order of the replies, one character for each byte.

The user connects once, and the channel is taken to deliver in order and without gaps
what it takes, until it dies. A text that a browser gives up after `maxRetransmitTime`
is left out by this, and an empty one where the library drops it.
-/

namespace WebrtcSample

open Echo

/-! ### Pieces of a text -/

section InOrder

variable {α : Type}

/-- The pieces stand in the text one after another, each whole, with anything before,
between and after them. -/
def InOrder : List (List α) → List α → Prop
  | [], _ => True
  | piece :: pieces, text =>
      ∃ before after, text = before ++ piece ++ after ∧ InOrder pieces after

theorem InOrder.mono {pieces : List (List α)} {text text' : List α}
    (order : InOrder pieces text) (longer : text <+: text') : InOrder pieces text' := by
  induction pieces generalizing text text' with
  | nil => trivial
  | cons piece pieces ih =>
      obtain ⟨before, after, rfl, rest⟩ := order
      obtain ⟨more, rfl⟩ := longer
      exact ⟨before, after ++ more, by simp, ih rest (List.prefix_append _ _)⟩

/-- A piece that is written at the end comes after the others. -/
theorem InOrder.concat {pieces : List (List α)} {piece text text' : List α}
    (order : InOrder pieces text) (longer : text ++ piece <+: text') :
    InOrder (pieces ++ [piece]) text' := by
  obtain ⟨more, rfl⟩ := longer
  induction pieces generalizing text with
  | nil => exact ⟨text, more, rfl, trivial⟩
  | cons first pieces ih =>
      obtain ⟨before, after, rfl, rest⟩ := order
      exact ⟨before, after ++ piece ++ more, by simp, ih rest⟩

end InOrder

/-! ### The page and its channel -/

namespace Browser

/-- The texts the channel has taken from the page. -/
def Tab.handed (tab : Tab) : List Bytes := tab.channelSends.map Prod.snd

/-- What `onmessage` writes to the page. -/
def shown (data : Bytes) : List CodeUnit :=
  utf16 "Data Channel onmessage:" ++ utf16 "[object ArrayBuffer]" ++ utf16 "\n" ++
    (JsClient.fromCharCode data ++ utf16 "\n")

/-- The messages an event hands to `onmessage`. -/
def Event.data : Event → List Bytes
  | .channelMessage _ data => [data]
  | _ => []

variable {L : JsonLibs} {B : JsClient.WebIdl} {tab tab' : Tab} {ev : Event}

/-- The script takes a text for `exit` exactly if the server does. -/
theorem typed_exit : tab.typed = utf8 "exit" ↔ tab.stdin = utf16 "exit" := by
  constructor
  · intro same
    apply Utf16.eq_utf16_of_scalars (by decide)
    rw [← utf8_inj.mp same, String.toList_ofList]
  · intro same
    exact typed_of_text same

/-- What a step other than a click on `send` and an opening does: nothing to the
channel, and it writes to the page. -/
structure Aside (tab : Tab) (data : List Bytes) (tab' : Tab) : Prop where
  dataChannel : tab'.dataChannel = tab.dataChannel
  channels : tab'.channels = tab.channels
  peers : tab'.peers = tab.peers
  sends : tab'.channelSends = tab.channelSends
  stdout : tab.stdout ++ data.flatMap shown <+: tab'.stdout

theorem aside_of_step (h : (machine L B).step tab ev = some tab')
    (click : ∀ answer, ev ≠ .clickSend answer) (opens : ∀ ws, ev ≠ .socketOpen ws)
    (alone : ∀ pc state, ev ≠ .channelAnnounced pc state) : Aside tab ev.data tab' := by
  obtain ⟨-, rfl⟩ := step_eq h
  cases ev with
  | clickSend answer => exact absurd rfl (click answer)
  | socketOpen ws => exact absurd rfl (opens ws)
  | channelAnnounced pc state => exact absurd rfl (alone pc state)
  | socketMessage ws data =>
      simp only [Event.handler, Event.record, onWebSocketMessage]
      cases JsClient.readMessage L B data with
      | error err => exact ⟨rfl, rfl, rfl, rfl, by simp [settle, Event.data]⟩
      | ok action =>
          cases peer : tab.peerConnection <;> constructor <;>
            simp [settle, act, peer, Tab.channelSends, Act.sent?, Event.data]
  | offerCreated pc sdp =>
      simp only [Event.handler, Event.record, onOfferSuccess, socketSend, output, act]
      cases peer : tab.peerConnection with
      | none => constructor <;> simp [settle, Tab.channelSends, Event.data]
      | some cur =>
          cases socket : tab.webSocketConnection with
          | none => constructor <;> simp [settle, Tab.channelSends, Act.sent?, Event.data]
          | some ws =>
              by_cases connecting : tab.readyState ws = .connecting <;> constructor <;>
                simp [settle, connecting, Tab.channelSends, Act.sent?, Event.data]
  | iceConnectionState pc state =>
      simp only [Event.handler, Event.record, onIceConnectionStateChange, output]
      cases peer : tab.peerConnection <;> constructor <;>
        simp [settle, Tab.channelSends, Event.data]
  | iceCandidate pc candidate =>
      cases candidate <;> constructor <;>
        simp [Event.handler, Event.record, onIceCandidate, output, settle, Tab.channelSends,
          Event.data]
  | _ =>
      constructor <;>
        simp [Event.handler, Event.record, connect, output, settle, onopen, onclose, onmessage,
          onerror, onOfferFailure, Tab.channelSends, Event.data, shown]

/-- The page of a user who connects once. -/
structure Steady (tab : Tab) : Prop where
  bounded : tab.routing.Bounded
  once : ∃ told, tab.routing.Once told
  paired : Paired tab

theorem Steady.step (inv : Steady tab) (h : (machine L B).step tab ev = some tab')
    (first : ev = .clickConnect → tab.sockets = 0)
    (alone : ∀ pc state, ev ≠ .channelAnnounced pc state) : Steady tab' := by
  obtain ⟨told, once⟩ := inv.once
  have routed := routed_of_step h
  exact ⟨inv.bounded.step routed, ⟨_, once.step routed first⟩,
    (inv.paired.step inv.bounded h fun pc state same => absurd same (alone pc state)).1⟩

/-- Such a page has at most one channel, number 0. What it has handed over ends with
the first `exit`, and after that it has no channel. -/
structure Chats (tab : Tab) : Prop where
  steady : Steady tab
  channels : tab.channels = tab.peers
  pointer : ∀ dc, tab.dataChannel = some dc → dc = 0 ∧ 0 < tab.peers
  sends : ∀ sent ∈ tab.channelSends, sent.1 = 0
  last : utf8 "exit" ∉ tab.handed.dropLast
  quits : utf8 "exit" ∈ tab.handed → tab.dataChannel = none ∧ 0 < tab.peers

theorem chats_initial : Chats .initial where
  steady := ⟨bounded_initial, ⟨0, (caller_initial (L := .reference)).once⟩, rfl⟩
  channels := rfl
  pointer := fun _ same => nomatch same
  sends := fun _ mem => nomatch mem
  last := List.not_mem_nil
  quits := fun mem => nomatch mem

/-- A click on `send` hands over what is typed, on the one channel, or nothing. -/
theorem Chats.click (inv : Chats tab) {answer : SendAnswer}
    (h : (machine L B).step tab (.clickSend answer) = some tab') :
    tab'.channels = tab.channels ∧ tab'.peers = tab.peers ∧ tab.stdout <+: tab'.stdout ∧
      (tab'.dataChannel = none ∨ tab'.dataChannel = tab.dataChannel) ∧
      (tab'.channelSends = tab.channelSends ∨
        tab.dataChannel = some 0 ∧ tab'.channelSends = tab.channelSends ++ [(0, tab.typed)] ∧
          (tab.typed = utf8 "exit" → tab'.dataChannel = none)) := by
  cases sent_of_click h with
  | null channel => exact ⟨rfl, rfl, List.prefix_rfl, .inr rfl, .inl rfl⟩
  | refused channel _ => exact ⟨rfl, rfl, List.prefix_rfl, .inr rfl, .inl rfl⟩
  | declined channel _ _ => exact ⟨rfl, rfl, List.prefix_rfl, .inr rfl, .inl rfl⟩
  | text channel _ _ other =>
      obtain ⟨rfl, -⟩ := inv.pointer _ channel
      refine ⟨rfl, rfl, List.prefix_rfl, .inr rfl, .inr ⟨channel, ?_, fun exit => ?_⟩⟩
      · simp [Tab.sent, Tab.channelSends, Act.sent?]
      · exact absurd (typed_exit.mp exit) other
  | quit channel _ _ peer =>
      obtain ⟨rfl, -⟩ := inv.pointer _ channel
      refine ⟨rfl, rfl, ?_, .inl rfl, .inr ⟨channel, ?_, fun _ => rfl⟩⟩
      · simp [Tab.left, Tab.sent]
      · simp [Tab.left, Tab.sent, Tab.channelSends, Act.sent?]
  | lone channel _ _ peer =>
      obtain ⟨rfl, -⟩ := inv.pointer _ channel
      refine ⟨rfl, rfl, List.prefix_rfl, .inl rfl, .inr ⟨channel, ?_, fun _ => rfl⟩⟩
      simp [Tab.sent, Tab.channelSends, Act.sent?]

/-- A step that hands over nothing and keeps the channel, or takes it away. -/
theorem Chats.of_quiet (inv : Chats tab) (steady : Steady tab')
    (channels : tab'.channels = tab.channels) (peers : tab'.peers = tab.peers)
    (pointer : tab'.dataChannel = none ∨ tab'.dataChannel = tab.dataChannel)
    (sends : tab'.channelSends = tab.channelSends) : Chats tab' := by
  have handed : tab'.handed = tab.handed := congrArg (List.map Prod.snd) sends
  refine ⟨steady, by rw [channels, peers, inv.channels], ?_, by
    rw [sends]; exact inv.sends, by rw [handed]; exact inv.last, ?_⟩
  · intro dc current
    rcases pointer with none | same
    · rw [none] at current
      cases current
    · rw [peers]
      exact inv.pointer dc (same ▸ current)
  · intro exit
    rw [handed] at exit
    obtain ⟨none, some⟩ := inv.quits exit
    refine ⟨?_, peers ▸ some⟩
    rcases pointer with gone | same
    · exact gone
    · exact same.trans none

/-- A step that hands over what is typed. -/
theorem Chats.of_sent (inv : Chats tab) (steady : Steady tab')
    (channels : tab'.channels = tab.channels) (peers : tab'.peers = tab.peers)
    (pointer : tab'.dataChannel = none ∨ tab'.dataChannel = tab.dataChannel)
    (current : tab.dataChannel = some 0)
    (sends : tab'.channelSends = tab.channelSends ++ [(0, tab.typed)])
    (leaves : tab.typed = utf8 "exit" → tab'.dataChannel = none) : Chats tab' := by
  have some : 0 < tab'.peers := peers ▸ (inv.pointer 0 current).2
  have none : utf8 "exit" ∉ tab.handed := fun exit => by
    rw [(inv.quits exit).1] at current
    cases current
  have handed : tab'.handed = tab.handed ++ [tab.typed] := by
    rw [Tab.handed, sends, List.map_append]
    rfl
  refine ⟨steady, by rw [channels, peers, inv.channels], ?_, ?_, ?_, ?_⟩
  · intro dc now
    rcases pointer with gone | same
    · rw [gone] at now
      cases now
    · rw [same, current] at now
      cases now
      exact ⟨rfl, some⟩
  · rw [sends]
    intro sent among
    rcases List.mem_append.mp among with old | new
    · exact inv.sends sent old
    · rw [List.mem_singleton.mp new]
  · rw [handed, List.dropLast_concat]
    exact none
  · intro exit
    rw [handed, List.mem_append, List.mem_singleton] at exit
    exact ⟨leaves (exit.resolve_left none).symm, some⟩

/-- The page keeps to its one channel, and goes on writing. -/
theorem Chats.step (inv : Chats tab) (h : (machine L B).step tab ev = some tab')
    (first : ev = .clickConnect → tab.sockets = 0)
    (alone : ∀ pc state, ev ≠ .channelAnnounced pc state) :
    Chats tab' ∧ tab.channelSends <+: tab'.channelSends ∧
      tab.stdout ++ ev.data.flatMap shown <+: tab'.stdout := by
  have steady := inv.steady.step h first alone
  by_cases click : ∃ answer, ev = .clickSend answer
  · obtain ⟨answer, rfl⟩ := click
    obtain ⟨channels, peers, stdout, pointer, sends | ⟨current, sends, leaves⟩⟩ := inv.click h
    · exact ⟨inv.of_quiet steady channels peers pointer sends, by rw [sends],
        by simpa [Event.data] using stdout⟩
    · exact ⟨inv.of_sent steady channels peers pointer current sends leaves,
        sends ▸ List.prefix_append _ _, by simpa [Event.data] using stdout⟩
  by_cases opens : ∃ ws, ev = .socketOpen ws
  · obtain ⟨ws, rfl⟩ := opens
    have enabled := (step_eq h).1
    simp only [Event.enabled, decide_eq_true_eq] at enabled
    obtain ⟨told, before⟩ := inv.steady.once
    have none : tab.peers = 0 := before.connecting ws enabled.1 enabled.2
    obtain rfl := Option.some.inj (h.symm.trans (step_socketOpen enabled.1 enabled.2))
    refine ⟨⟨steady, ?_, ?_, inv.sends, inv.last, ?_⟩, List.prefix_rfl, ?_⟩
    · simp [Tab.opened, inv.channels]
    · intro dc current
      have same : tab.channels = dc := Option.some.inj current
      exact ⟨by rw [← same, inv.channels, none], Nat.succ_pos _⟩
    · intro exit
      have some := (inv.quits exit).2
      omega
    · simp [Event.data, Tab.opened]
  · obtain ⟨pointer, channels, peers, sends, stdout⟩ :=
      aside_of_step h (fun answer same => click ⟨answer, same⟩)
        (fun ws same => opens ⟨ws, same⟩) alone
    exact ⟨inv.of_quiet steady channels peers (.inr pointer) sends, by rw [sends],
      stdout⟩

end Browser

/-! ### The system -/

/-- The page, the server and what connects them. `up` and `down` are the two
directions of the data channel. -/
structure PageEcho where
  session : PageSession
  up : Fifo Bytes
  down : Fifo Bytes

namespace PageEcho

inductive Move where
  /-- An action of the session that is not a message on the channel. -/
  | session (a : PageSession.Action)
  /-- The next message on the channel reaches this side; the page is the client. -/
  | deliver (side : Side)
  /-- From now on what is sent towards this side is dropped. -/
  | refuse (side : Side)
  /-- The channel is gone: what is on its way to this side is lost. -/
  | lose (side : Side)

def initial : PageEcho := ⟨.initial, .empty, .empty⟩

/-- The actions considered: there is one channel, the one the page makes. -/
def admits (s : PageEcho) : PageSession.Action → Bool
  | .page (.channelMessage _ _) => false
  | .page (.channelAnnounced _ _) => false
  | .server (.callback (.message _ _)) => false
  | .server (.callback (.dataChannel _)) => s.session.server.state.channels = 0
  | _ => true

/-- The session has moved on; what was sent on the channel is on its way. -/
def follow (s : PageEcho) (t : PageSession) : PageEcho where
  session := t
  up := s.up.pushAll (onChannel (s.session.tab.newSends t.tab))
  down := s.down.pushAll (onChannel (newSends s.session.server t.server))

variable (L : JsonLibs) (B : JsClient.WebIdl) (W : WebRtc)

def step (s : PageEcho) : Move → Option PageEcho
  | .session a =>
      if s.admits a then (PageSession.step L B W s.session a).map s.follow else none
  | .deliver .client =>
      s.down.pop.bind fun (data, rest) =>
        (PageSession.step L B W s.session (.page (.channelMessage 0 data))).map
          { s with down := rest }.follow
  | .deliver .server =>
      s.up.pop.bind fun (data, rest) =>
        (PageSession.step L B W s.session (.server (.callback (.message 0 data)))).map
          { s with up := rest }.follow
  | .refuse .client => some { s with down := s.down.shut }
  | .refuse .server => some { s with up := s.up.shut }
  | .lose .client => some { s with down := s.down.cut }
  | .lose .server => some { s with up := s.up.cut }

/-- The system as an automaton. -/
def machine : Automaton PageEcho Move := ⟨initial, step L B W⟩

/-- What the page has given to `RTCDataChannel.send`. -/
def handed (s : PageEcho) : List Bytes := s.session.tab.handed

end PageEcho

/-! ### Runs -/

/-- What is sent on the one channel arrives at the link. -/
theorem onChannel_eq_map {sends : List (DcId × Bytes)} (zero : ∀ sent ∈ sends, sent.1 = 0) :
    onChannel sends = sends.map Prod.snd := by
  induction sends with
  | nil => rfl
  | cons sent rest ih =>
      rw [List.forall_mem_cons] at zero
      have later : onChannel rest = rest.map Prod.snd := ih zero.2
      simp only [onChannel, List.filterMap_cons, zero.1, if_true, List.map_cons]
      rw [← later, onChannel]

namespace PageSession

variable {L : JsonLibs} {B : JsClient.WebIdl} {W : WebRtc}
  {s t : PageSession} {a : Action}

/-- An action is a step of the page or a step of the server. -/
theorem step_sides (h : PageSession.step L B W s a = some t) :
    (∃ ev, (Browser.machine L B).step s.tab ev = some t.tab ∧ t.server = s.server ∧
        (ev = .clickConnect → s.tab.sockets = 0) ∧
        (a = .page ev ∨ ∃ ws data, ev = .socketMessage ws data)) ∨
      ∃ ev p, Process.step (Server.manager L W) s.server ev = some p ∧ t.server = p.flushed ∧
        t.tab = s.tab ∧ (a = .server ev ∨ ∃ hdl payload, ev = .wsMessage hdl payload) := by
  rcases step_cases h with ⟨ev, tab, rfl, admitted, moved, rfl⟩ | ⟨ev, p, rfl, solo, moved, rfl⟩ |
    ⟨payload, rest, tab, rfl, popped, moved, rfl⟩ | ⟨payload, rest, p, rfl, popped, moved, rfl⟩
  · refine .inl ⟨ev, moved, rfl, ?_, .inl rfl⟩
    rintro rfl
    simpa [admits] using admitted
  · exact .inr ⟨ev, p, moved, rfl, rfl, .inl rfl⟩
  · exact .inl ⟨_, moved, rfl, by simp, .inr ⟨_, _, rfl⟩⟩
  · exact .inr ⟨_, p, moved, rfl, rfl, .inr ⟨_, _, rfl⟩⟩

end PageSession

namespace PageEcho

variable {L : JsonLibs} {B : JsClient.WebIdl} {W : WebRtc} {s t : PageEcho}

/-- The invariant: each side has done its part, and each direction of the channel
has been given what its side sent. -/
structure Inv (s : PageEcho) : Prop where
  page : Browser.Chats s.session.tab
  up : s.up.sent = s.handed
  answers : Server.Answers s.up.received s.session.server
  down : s.down.sent = replies s.up.received
  shown : InOrder (s.down.received.map Browser.shown) s.session.tab.stdout

theorem inv_initial : Inv initial where
  page := Browser.chats_initial
  up := rfl
  answers := ⟨(by rintro ⟨⟩), fun _ some => absurd rfl some, rfl, rfl⟩
  down := rfl
  shown := trivial

/-- A step of the page; `down` is the direction to it after the step. -/
theorem Inv.page_step (inv : Inv s) {ev : Browser.Event} {u : PageSession} {down : Fifo Bytes}
    (moved : (Browser.machine L B).step s.session.tab ev = some u.tab)
    (server : u.server = s.session.server) (first : ev = .clickConnect → s.session.tab.sockets = 0)
    (alone : ∀ pc state, ev ≠ .channelAnnounced pc state) (sent : down.sent = s.down.sent)
    (received : down.received = s.down.received ++ ev.data) :
    Inv (follow { s with down := down } u) := by
  obtain ⟨page, ⟨more, sends⟩, stdout⟩ := inv.page.step moved first alone
  have one : onChannel more = more.map Prod.snd := onChannel_eq_map fun sent among =>
    page.sends sent (sends ▸ List.mem_append_right _ among)
  have news : s.session.tab.newSends u.tab = more := by
    rw [Browser.Tab.newSends, ← sends, List.drop_left]
  constructor
  · exact page
  · show (s.up.pushAll (onChannel (s.session.tab.newSends u.tab))).sent = u.tab.handed
    rw [Fifo.pushAll_sent, news, one, inv.up, Browser.Tab.handed, ← sends, List.map_append]
    rfl
  · show Server.Answers (s.up.pushAll _).received u.server
    rw [Fifo.pushAll_received, server]
    exact inv.answers
  · show (down.pushAll (onChannel (newSends s.session.server u.server))).sent =
      replies (s.up.pushAll _).received
    rw [server, newSends_self, Fifo.pushAll_received]
    exact sent.trans inv.down
  · show InOrder ((down.pushAll _).received.map Browser.shown) u.tab.stdout
    rw [Fifo.pushAll_received, received, List.map_append]
    cases ev with
    | channelMessage dc data =>
        exact inv.shown.concat (by simpa [Browser.Event.data] using stdout)
    | _ => simpa [Browser.Event.data] using
        inv.shown.mono (by simpa [Browser.Event.data] using stdout)

/-- A step of the server; `up` is the direction to it after the step. -/
theorem Inv.server_step (inv : Inv s) {p : Process} {u : PageSession} {up : Fifo Bytes}
    {data : List Bytes} (sent : up.sent = s.up.sent) (answers : Server.Answers up.received p)
    (sends : replies up.received = replies s.up.received ++ data)
    (server : u.server = p.flushed) (tab : u.tab = s.session.tab) :
    Inv (follow { s with up := up } u) := by
  have flushed : channelSends u.server =
      channelSends s.session.server ++ data.map fun m => (0, m) := by
    rw [inv.answers.sends, ← List.map_append, ← sends, server]
    exact answers.sends
  have none : s.session.tab.newSends u.tab = [] := by
    rw [Browser.Tab.newSends, tab, List.drop_length]
  constructor
  · show Browser.Chats u.tab
    rw [tab]
    exact inv.page
  · show (up.pushAll (onChannel (s.session.tab.newSends u.tab))).sent = u.tab.handed
    rw [none, tab]
    exact sent.trans inv.up
  · show Server.Answers (up.pushAll _).received u.server
    rw [Fifo.pushAll_received, server]
    exact answers.flushed
  · show (s.down.pushAll (onChannel (newSends s.session.server u.server))).sent =
      replies (up.pushAll _).received
    rw [newSends_eq flushed, onChannel_zero, Fifo.pushAll_sent, Fifo.pushAll_received, inv.down,
      sends]
  · show InOrder ((s.down.pushAll _).received.map Browser.shown) u.tab.stdout
    rw [Fifo.pushAll_received, tab]
    exact inv.shown

/-- An action that is not a message on the channel. -/
theorem Inv.session_step (inv : Inv s) {a : PageSession.Action}
    (h : PageEcho.step L B W s (.session a) = some t) : Inv t := by
  simp only [PageEcho.step, Option.ite_none_right_eq_some, Option.map_eq_some_iff] at h
  obtain ⟨admitted, u, acted, rfl⟩ := h
  rcases PageSession.step_sides acted with ⟨ev, moved, server, first, from'⟩ |
    ⟨ev, p, moved, server, tab, from'⟩
  · have alone : ∀ pc state, ev ≠ .channelAnnounced pc state := by
      rintro pc state rfl
      rcases from' with rfl | ⟨ws, data, same⟩
      · cases admitted
      · cases same
    have none : ev.data = [] := by
      rcases from' with rfl | ⟨ws, data, rfl⟩
      · cases ev with
        | channelMessage dc data => cases admitted
        | _ => rfl
      · rfl
    exact inv.page_step moved server first alone rfl (by rw [none, List.append_nil])
  · have answers : Server.Answers s.up.received p := by
      refine inv.answers.step ?_ ?_ moved
      · rintro dc data rfl
        rcases from' with rfl | ⟨hdl, payload, same⟩
        · cases admitted
        · cases same
      · rintro pc rfl
        rcases from' with rfl | ⟨hdl, payload, same⟩
        · simpa [admits] using admitted
        · cases same
    exact inv.server_step rfl answers (List.append_nil _).symm server tab

/-- A message reaches the page. -/
theorem Inv.toPage (inv : Inv s)
    (h : PageEcho.step L B W s (.deliver .client) = some t) : Inv t := by
  simp only [PageEcho.step, Option.bind_eq_some_iff, Option.map_eq_some_iff] at h
  obtain ⟨⟨data, rest⟩, popped, u, acted, rfl⟩ := h
  obtain ⟨-, received, sent, -⟩ := Fifo.pop_eq_some popped
  simp only [PageSession.step, Option.ite_none_right_eq_some, Option.map_eq_some_iff] at acted
  obtain ⟨-, tab, moved, rfl⟩ := acted
  exact inv.page_step moved rfl (by simp) (by simp) sent received

/-- A message reaches the server. -/
theorem Inv.toServer (inv : Inv s)
    (h : PageEcho.step L B W s (.deliver .server) = some t) : Inv t := by
  simp only [PageEcho.step, Option.bind_eq_some_iff, Option.map_eq_some_iff] at h
  obtain ⟨⟨data, rest⟩, popped, u, acted, rfl⟩ := h
  obtain ⟨-, received, sent, -⟩ := Fifo.pop_eq_some popped
  simp only [PageSession.step, Option.ite_none_right_eq_some, Option.map_eq_some_iff] at acted
  obtain ⟨-, p, moved, rfl⟩ := acted
  have answers := inv.answers.message moved
  rw [← received] at answers
  exact inv.server_step sent answers (by rw [received, replies_concat]) rfl rfl

theorem Inv.step (inv : Inv s) {m : Move} (h : PageEcho.step L B W s m = some t) :
    Inv t := by
  cases m with
  | session a => exact inv.session_step h
  | deliver side =>
      cases side with
      | client => exact inv.toPage h
      | server => exact inv.toServer h
  | refuse side | lose side =>
      cases side <;>
      · cases h
        exact ⟨inv.page, inv.up, inv.answers, inv.down, inv.shown⟩

/-- The protocol, in a state of a run. -/
structure Follows (s : PageEcho) : Prop where
  /-- Nothing is handed over after an `exit`. -/
  last : utf8 "exit" ∉ s.handed.dropLast
  /-- A page that has handed over an `exit` has quit. -/
  quits : utf8 "exit" ∈ s.handed →
    s.session.tab.dataChannel = none ∧ s.session.tab.peerConnection = none
  /-- What reaches the server is what was handed over, byte for byte. -/
  arrives : s.up.received <+: s.handed
  /-- What reaches the page are the replies to what reached the server. -/
  echoes : s.down.received <+: replies s.up.received
  /-- They stand on the page whole and in this order, one character for each byte. -/
  shown : InOrder (s.down.received.map Browser.shown) s.session.tab.stdout
  /-- The server stops when an `exit` reaches it. -/
  stops : stops s.session.server = s.up.received.count (utf8 "exit")
  once : Echo.stops s.session.server ≤ 1

theorem count_of_last {handed : List Bytes} {last : Bytes} (none : last ∉ handed.dropLast) :
    handed.count last ≤ 1 := by
  rcases List.eq_nil_or_concat handed with rfl | ⟨before, line, rfl⟩
  · exact Nat.zero_le 1
  · rw [List.concat_eq_append, List.dropLast_concat] at none
    rw [List.concat_eq_append, List.count_append, List.count_eq_zero_of_not_mem none, Nat.zero_add]
    exact List.count_le_length

theorem Inv.follows (inv : Inv s) : Follows s := by
  have arrives : s.up.received <+: s.handed := inv.up ▸ s.up.received_of_sent
  constructor
  · exact inv.page.last
  · intro exit
    have none := (inv.page.quits exit).1
    have paired := inv.page.steady.paired
    rw [Browser.Paired, none, Option.isSome_none, eq_comm, Option.isSome_eq_false_iff,
      Option.isNone_iff_eq_none] at paired
    exact ⟨none, paired⟩
  · exact arrives
  · exact inv.down ▸ s.down.received_of_sent
  · exact inv.shown
  · exact inv.answers.stops
  · calc Echo.stops s.session.server = s.up.received.count (utf8 "exit") := inv.answers.stops
      _ ≤ s.handed.count (utf8 "exit") := arrives.sublist.count_le _
      _ ≤ 1 := count_of_last inv.page.last

end PageEcho

end WebrtcSample
