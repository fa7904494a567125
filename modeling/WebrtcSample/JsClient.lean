import WebrtcSample.Util.Signal
import WebrtcSample.Lib.Utf16
import WebrtcSample.Lib.Automaton

/-!
The browser client, `src/client/webrtc_client.js`.

The script keeps its socket, its peer connection and its channel in three globals,
and its handlers look at the globals and not at the object the event came from. The
browser's objects are outside the repository: `Tab` keeps what the browser keeps of
them, and what the script does to them is recorded as it does it. An uncaught
exception ends the handler and nothing else.

What the browser itself decides is left to it: whether a constructor can convert its
argument (`WebIdl`), what `RTCDataChannel.send` makes of a text (`SendAnswer`), and
when each event comes. It is taken to construct the `RTCPeerConnection` and its data
channel, and to hand a binary message over as an `ArrayBuffer`.
-/

namespace WebrtcSample

namespace JsClient

/-- How a handler can throw. -/
inductive Fault where
  | typeError
  | invalidStateError
  | operationError
  | referenceError
  | syntaxError
  /-- `throw "Unknown message type."`. -/
  | unknownMessageType
deriving DecidableEq, Repr

/-! ### What the browser converts -/

/-- An `RTCIceCandidate`. Its `sdpMLineIndex` is an unsigned short. -/
structure RtcIceCandidate where
  candidate : Bytes
  sdpMid : Option Bytes
  sdpMLineIndex : Option UInt16
deriving DecidableEq, Repr

/-- What the browser keeps of a candidate: a number becomes an unsigned short by its
last sixteen bits. -/
def RtcIceCandidate.ofIce (ice : Ice) : RtcIceCandidate :=
  ⟨ice.candidate, some ice.sdpMid, some (.ofInt ice.sdpMlineIndex.toInt)⟩

/-- An unsigned short holds a number up to multiples of 2^16. -/
theorem toNat_unsignedShort (i : Int) : ((UInt16.ofInt i).toNat : Int) = i % 65536 := by
  rw [UInt16.ofInt, UInt16.toNat_ofNat']
  omega

/-- The constructors of `RTCSessionDescription` and `RTCIceCandidate`: what they make of
their argument, or nothing when they throw a `TypeError`. Web IDL says how strings and
numbers are converted. -/
structure WebIdl where
  /-- `new RTCSessionDescription({type: "answer", sdp})`; an absent member is `undefined`. -/
  sessionDescription : Option Json → Option Bytes
  iceCandidate : Json → Option RtcIceCandidate
  sessionDescription_str : ∀ sdp, sessionDescription (some (.str sdp)) = some sdp
  iceCandidate_obj : ∀ ms candidate sdpMid index,
    Json.find? (utf8 "candidate") ms = some (.str candidate) →
    Json.find? (utf8 "sdpMid") ms = some (.str sdpMid) →
    Json.find? (utf8 "sdpMLineIndex") ms = some (.int index) →
    Json.find? (utf8 "usernameFragment") ms = none →
    iceCandidate (.obj ms) = some ⟨candidate, some sdpMid, some (.ofInt index)⟩

/-- A browser that converts no more than it has to. -/
def WebIdl.reference : WebIdl where
  sessionDescription
    | some (.str sdp) => some sdp
    | _ => none
  iceCandidate
    | .obj ms =>
        match Json.find? (utf8 "candidate") ms, Json.find? (utf8 "sdpMid") ms,
          Json.find? (utf8 "sdpMLineIndex") ms with
        | some (.str candidate), some (.str sdpMid), some (.int index) =>
            some ⟨candidate, some sdpMid, some (.ofInt index)⟩
        | _, _, _ => none
    | _ => none
  sessionDescription_str _ := rfl
  iceCandidate_obj _ _ _ _ candidate sdpMid index _ := by simp only [candidate, sdpMid, index]

mutual

/-- The value can be turned into a text. An object inherits the `toString` that does
it, unless it has a member of that name; an array turns its items into texts. -/
def hasText : Json → Bool
  | .obj ms => (Json.find? (utf8 "toString") ms).isNone
  | .arr items => allHaveText items
  | _ => true

def allHaveText : List Json → Bool
  | [] => true
  | item :: items => hasText item && allHaveText items

end

/-- `value == text` for a text that is no number and has no comma: equal strings,
or an array that turns into such a string. -/
def looseEq : Json → Bytes → Bool
  | .str s, text => s = text
  | .arr [item], text => looseEq item text
  | _, _ => false

/-- `object[key]`. -/
def member (object : Json) (key : Bytes) : Except Fault (Option Json) :=
  match object with
  | .null => .error .typeError
  | .obj ms => .ok (Json.find? key ms)
  | _ => .ok none

/-- What a constructor yields, if it can convert its argument. -/
def constructed {α : Type} : Option α → Except Fault α
  | some a => .ok a
  | none => .error .typeError

/-- `String.fromCharCode.apply("", new Uint8Array(data))`. An engine may limit the
number of arguments of a call; that is left out. -/
def fromCharCode (data : Bytes) : List CodeUnit := data.map UInt8.toUInt16

/-! ### Messages -/

/-- What the script hands to the peer connection as coming from the server. -/
inductive RemoteAction where
  /-- `setRemoteDescription` of an answer. -/
  | setRemoteDescription (sdp : Bytes)
  | addIceCandidate (candidate : RtcIceCandidate)
deriving DecidableEq

variable (L : JsonLibs) (B : WebIdl)

/-- The text of `sessionDescription.toJSON()` for an offer. -/
def offerText (sdp : Bytes) : Bytes :=
  L.stringify [(utf8 "type", .str (utf8 "offer")), (utf8 "sdp", .str sdp)]

/-- The body of `onWebSocketMessage`, up to the call on `peerConnection`. -/
def readMessage (data : Bytes) : Except Fault RemoteAction :=
  match L.jsParse data with
  | none => .error .syntaxError
  | some messageObject => do
      let type ← member messageObject (utf8 "type")
      -- `"[Client] onWebSocketMessage:" + messageObject.type` needs a text.
      unless type.all hasText do
        throw .typeError
      if type.any (looseEq · (utf8 "answer")) then
        let answer ← member messageObject (utf8 "answer")
        return .setRemoteDescription (← constructed (B.sessionDescription answer))
      else if type.any (looseEq · (utf8 "ice")) then
        return .addIceCandidate (← constructed (B.iceCandidate messageObject))
      else
        throw .unknownMessageType

variable {L B}

/-- The script's offer is the same document as the C++ client's. -/
theorem stringToJson_offerText (text : String) :
    stringToJson L (offerText L (utf8 text)) = .ok (.obj (offerMembers (utf8 text))) := by
  have flat : FlatText [(utf8 "type", .str (utf8 "offer")), (utf8 "sdp", .str (utf8 text))] := by
    intro m hm
    simp only [List.mem_cons, List.not_mem_nil, or_false] at hm
    rcases hm with rfl | rfl
    · exact ⟨⟨_, rfl⟩, .inl ⟨"offer", rfl⟩⟩
    · exact ⟨⟨_, rfl⟩, .inl ⟨text, rfl⟩⟩
  exact stringToJson_stringify flat

theorem readMessage_answerMessage (text : String) :
    readMessage L B (answerMessage L (utf8 text)) = .ok (.setRemoteDescription (utf8 text)) := by
  have parsed : L.jsParse (answerMessage L (utf8 text)) = some (.obj (answerMembers (utf8 text))) :=
    L.jsParse_writeString _ (answerMembers_sorted _) (answerMembers_flat text)
  have built : (constructed (B.sessionDescription (some (.str (utf8 text))))).map
      RemoteAction.setRemoteDescription = .ok (.setRemoteDescription (utf8 text)) := by
    rw [B.sessionDescription_str]
    rfl
  rw [readMessage, parsed]
  exact built

/-- The script takes every candidate the server writes, complete or not. -/
theorem readMessage_toJsonString {ice : Ice} (text : ice.IsText) :
    readMessage L B (ice.toJsonString L) = .ok (.addIceCandidate (.ofIce ice)) := by
  have parsed : L.jsParse (ice.toJsonString L) = some (.obj ice.members) :=
    L.jsParse_writeString _ ice.members_sorted (Ice.members_flat text)
  have built : (constructed (B.iceCandidate (.obj ice.members))).map
      RemoteAction.addIceCandidate = .ok (.addIceCandidate (.ofIce ice)) := by
    rw [B.iceCandidate_obj _ _ _ _ rfl rfl rfl rfl]
    rfl
  rw [readMessage, parsed]
  exact built

end JsClient

namespace Browser

open JsClient Effect

/-! ### The browser's objects -/

/-- A `WebSocket`, numbered in the order of creation. -/
abbrev SocketId := Nat

/-- `WebSocket.readyState`. The script never closes a socket, so the browser's
`CLOSING` and `CLOSED` are one state: `send` drops the text in both. -/
inductive ReadyState where
  | connecting
  | open
  | closed
deriving DecidableEq, Repr

/-- `RTCIceConnectionState`. -/
inductive IceState where
  | new
  | checking
  | connected
  | completed
  | disconnected
  | failed
  | closed
deriving DecidableEq, Repr

def IceState.text : IceState → String
  | .new => "new"
  | .checking => "checking"
  | .connected => "connected"
  | .completed => "completed"
  | .disconnected => "disconnected"
  | .failed => "failed"
  | .closed => "closed"

/-- What the script hands to the browser. -/
inductive Act where
  | setLocalDescription (pc : PcId) (sdp : String)
  /-- `WebSocket.send`; a socket that is closed drops the text. -/
  | socketSend (ws : SocketId) (text : Bytes)
  | remote (pc : PcId) (action : RemoteAction)
  | channelSend (dc : DcId) (data : Bytes)
  | closeChannel (dc : DcId)
  | closePeer (pc : PcId)

/-- The page, the script's globals and the browser's objects. -/
structure Tab where
  /-- The values of the two text areas, as they are written. That a text area reads a
  carriage return back as a line feed is left out. -/
  stdin : List CodeUnit
  stdout : List CodeUnit
  webSocketConnection : Option SocketId
  peerConnection : Option PcId
  dataChannel : Option DcId
  /-- Sockets created so far. -/
  sockets : Nat
  readyState : SocketId → ReadyState
  /-- Peer connections created so far. -/
  peers : Nat
  closedPeers : List PcId
  iceConnectionState : PcId → IceState
  /-- The socket whose opening made the peer connection. -/
  opener : PcId → SocketId
  /-- Calls of `createOffer` without an answer. -/
  requests : List PcId
  /-- Data channels met so far. -/
  channels : Nat
  channelPeer : DcId → PcId
  channelState : DcId → DataState
  acts : List Act
  /-- What was thrown and not caught. -/
  uncaught : List Fault

def Tab.initial : Tab where
  stdin := []
  stdout := []
  webSocketConnection := none
  peerConnection := none
  dataChannel := none
  sockets := 0
  readyState _ := .connecting
  peers := 0
  closedPeers := []
  iceConnectionState _ := .new
  opener _ := 0
  requests := []
  channels := 0
  channelPeer _ := 0
  channelState _ := .connecting
  acts := []
  uncaught := []

def Act.text? : Act → Option Bytes
  | .socketSend _ text => some text
  | _ => none

def Act.action? : Act → Option RemoteAction
  | .remote _ action => some action
  | _ => none

def Act.sent? : Act → Option (DcId × Bytes)
  | .channelSend dc data => some (dc, data)
  | _ => none

namespace Tab

/-- What the page has given to `WebSocket.send`. -/
def texts (tab : Tab) : List Bytes := tab.acts.filterMap Act.text?

/-- What it has handed to a peer connection as coming from the server. -/
def actions (tab : Tab) : List RemoteAction := tab.acts.filterMap Act.action?

/-- What it has given to `RTCDataChannel.send`, and on which channel. -/
def channelSends (tab : Tab) : List (DcId × Bytes) := tab.acts.filterMap Act.sent?

/-- What it has given to `RTCDataChannel.send` between two states. -/
def newSends (tab tab' : Tab) : List (DcId × Bytes) :=
  tab'.channelSends.drop tab.channelSends.length

/-- What is typed, as the browser sends it. -/
def typed (tab : Tab) : Bytes := utf8 (String.ofList (Utf16.scalars tab.stdin))

end Tab

/-- What `RTCDataChannel.send` of an open channel makes of a text. -/
inductive SendAnswer where
  | taken
  /-- It is longer than the other side takes: a `TypeError`. -/
  | tooLarge
  /-- There is no room for it: an `OperationError`. -/
  | bufferFull
deriving DecidableEq, Repr

/-- Code of the script; what it did before it throws stays done. -/
abbrev Script := EStateM Fault Tab

def act (a : Act) : Script Unit := modify fun tab => { tab with acts := tab.acts ++ [a] }

/-- `object.member`. -/
def member {α : Type} : Option α → Script α
  | some a => pure a
  | none => throw .typeError

@[simp] theorem run_member_some {α : Type} (a : α) (tab : Tab) :
    (member (some a)).run tab = .ok a tab := rfl

@[simp] theorem run_member_none {α : Type} (tab : Tab) :
    (member (none : Option α)).run tab = .error .typeError tab := rfl

/-! ### The script -/

variable (L : JsonLibs) (B : WebIdl)

def output (log : List CodeUnit) : Script Unit :=
  modify fun tab => { tab with stdout := tab.stdout ++ log ++ utf16 "\n" }

def input : Script (List CodeUnit) := do
  let input := (← get).stdin
  modify fun tab => { tab with stdin := [] }
  return input

/-- `onDataChannel`. `setDataChannelEvents` only sets the handlers below. -/
def onDataChannel (dc : DcId) : Script Unit := do
  output (utf16 "onDataChannel")
  modify fun tab => { tab with dataChannel := some dc }

/-- `onIceCandidate`, with a candidate or at the end of them. -/
def onIceCandidate (candidate : Bool) : Script Unit :=
  if candidate then
    output (utf16 "got ice candidate" ++ utf16 "[object RTCIceCandidate]")
  else
    output (utf16 "end of ice candidate" ++ utf16 "2")

def onIceConnectionStateChange : Script Unit := do
  let pc ← member (← get).peerConnection
  output (utf16 "onIceConnectionStateChange:" ++ utf16 ((← get).iceConnectionState pc).text)

/-- `dataChannel.onerror`: `ouptput` is not defined. -/
def onerror : Script Unit := throw .referenceError

def onmessage (data : Bytes) : Script Unit := do
  output (utf16 "Data Channel onmessage:" ++ utf16 "[object ArrayBuffer]")
  output (fromCharCode data)

def onopen : Script Unit := output (utf16 "Data Channel onopen")

def onclose : Script Unit := output (utf16 "Data Channel onclose")

def quit : Script Unit := do
  let dc ← member (← get).dataChannel
  act (.closeChannel dc)
  modify fun tab => { tab with dataChannel := none }
  let pc ← member (← get).peerConnection
  act (.closePeer pc)
  modify fun tab => { tab with closedPeers := tab.closedPeers ++ [pc], peerConnection := none }
  output (utf16 "Client exits gracefully.")

/-- `RTCDataChannel.send` of a text. -/
def channelSend (answer : SendAnswer) (dc : DcId) (text : Bytes) : Script Unit := do
  unless (← get).channelState dc = .open do
    throw .invalidStateError
  match answer with
  | .taken => act (.channelSend dc text)
  | .tooLarge => throw .typeError
  | .bufferFull => throw .operationError

/-- `send`, the button's handler. -/
def send (answer : SendAnswer) : Script Unit := do
  let data ← input
  let dc ← member (← get).dataChannel
  channelSend answer dc (utf8 (String.ofList (Utf16.scalars data)))
  if data = utf16 "exit" then
    quit

/-- `WebSocket.send`. -/
def socketSend (ws : SocketId) (text : Bytes) : Script Unit := do
  if (← get).readyState ws = .connecting then
    throw .invalidStateError
  act (.socketSend ws text)

/-- `onOfferSuccess`. -/
def onOfferSuccess (sdp : String) : Script Unit := do
  output (utf16 "[client] onOfferSuccess")
  let pc ← member (← get).peerConnection
  act (.setLocalDescription pc sdp)
  let ws ← member (← get).webSocketConnection
  socketSend ws (offerText L (utf8 sdp))

def onOfferFailure : Script Unit := output (utf16 "createOffer -> onOfferFailure")

/-- `onWebSocketOpen`. The handler is not told which socket has opened; `ws` only
goes to the record of the browser. -/
def onWebSocketOpen (ws : SocketId) : Script Unit := do
  modify fun tab =>
    { tab with
      peerConnection := some tab.peers
      peers := tab.peers + 1
      iceConnectionState := Function.update tab.iceConnectionState tab.peers .new
      opener := Function.update tab.opener tab.peers ws }
  let pc ← member (← get).peerConnection
  modify fun tab =>
    { tab with
      dataChannel := some tab.channels
      channels := tab.channels + 1
      channelPeer := Function.update tab.channelPeer tab.channels pc
      channelState := Function.update tab.channelState tab.channels .connecting
      requests := tab.requests ++ [pc] }

/-- `onWebSocketMessage`. -/
def onWebSocketMessage (data : Bytes) : Script Unit := do
  match readMessage L B data with
  | .error err => throw err
  | .ok action =>
      let pc ← member (← get).peerConnection
      act (.remote pc action)

def connect : Script Unit :=
  modify fun tab =>
    { tab with
      webSocketConnection := some tab.sockets
      sockets := tab.sockets + 1
      readyState := Function.update tab.readyState tab.sockets .connecting }

/-! ### Runs -/

/-- What can happen to the page. -/
inductive Event where
  | clickConnect
  /-- The user clicks on `send`, and this is what the channel makes of the text. -/
  | clickSend (answer : SendAnswer)
  /-- The user edits `stdin`. -/
  | edit (text : List CodeUnit)
  | socketOpen (ws : SocketId)
  | socketMessage (ws : SocketId) (data : Bytes)
  | socketClosed (ws : SocketId)
  | offerCreated (pc : PcId) (sdp : String)
  | offerFailed (pc : PcId)
  | iceCandidate (pc : PcId) (candidate : Bool)
  | iceConnectionState (pc : PcId) (state : IceState)
  /-- The peer made a channel. -/
  | channelAnnounced (pc : PcId) (state : DataState)
  | channelOpen (dc : DcId)
  | channelMessage (dc : DcId) (data : Bytes)
  | channelError (dc : DcId)
  | channelClosed (dc : DcId)
deriving DecidableEq

namespace Tab

/-- A peer connection on which the browser still fires events. -/
def live (tab : Tab) (pc : PcId) : Bool := pc < tab.peers ∧ pc ∉ tab.closedPeers

/-- A channel on which the browser still fires events. -/
def liveChannel (tab : Tab) (dc : DcId) : Bool :=
  dc < tab.channels ∧ tab.channelState dc ≠ .closed ∧ tab.live (tab.channelPeer dc)

end Tab

/-- The browser lets the event happen. -/
def Event.enabled (tab : Tab) : Event → Bool
  | .clickConnect | .clickSend _ | .edit _ => true
  | .socketOpen ws => ws < tab.sockets ∧ tab.readyState ws = .connecting
  | .socketMessage ws _ => ws < tab.sockets ∧ tab.readyState ws = .open
  | .socketClosed ws => ws < tab.sockets ∧ tab.readyState ws ≠ .closed
  | .offerCreated pc _ | .offerFailed pc => pc ∈ tab.requests ∧ tab.live pc
  | .iceCandidate pc _ | .iceConnectionState pc _ | .channelAnnounced pc _ => tab.live pc
  | .channelOpen dc => tab.liveChannel dc ∧ tab.channelState dc = .connecting
  | .channelMessage dc _ => tab.liveChannel dc ∧ tab.channelState dc = .open
  | .channelError dc | .channelClosed dc => tab.liveChannel dc

/-- What the browser records before it calls the handler. -/
def Event.record (tab : Tab) : Event → Tab
  | .edit text => { tab with stdin := text }
  | .socketOpen ws => { tab with readyState := Function.update tab.readyState ws .open }
  | .socketClosed ws => { tab with readyState := Function.update tab.readyState ws .closed }
  | .offerCreated pc _ | .offerFailed pc => { tab with requests := tab.requests.erase pc }
  | .iceConnectionState pc state =>
      { tab with iceConnectionState := Function.update tab.iceConnectionState pc state }
  | .channelAnnounced pc state =>
      { tab with
        channels := tab.channels + 1
        channelPeer := Function.update tab.channelPeer tab.channels pc
        channelState := Function.update tab.channelState tab.channels state }
  | .channelOpen dc => { tab with channelState := Function.update tab.channelState dc .open }
  | .channelClosed dc => { tab with channelState := Function.update tab.channelState dc .closed }
  | _ => tab

/-- The handler of the event. -/
def Event.handler (tab : Tab) : Event → Script Unit
  | .clickConnect => connect
  | .clickSend answer => send answer
  | .edit _ | .socketClosed _ => pure ()
  | .socketOpen ws => onWebSocketOpen ws
  | .socketMessage _ data => onWebSocketMessage L B data
  | .offerCreated _ sdp => onOfferSuccess L sdp
  | .offerFailed _ => onOfferFailure
  | .iceCandidate _ candidate => onIceCandidate candidate
  | .iceConnectionState _ _ => onIceConnectionStateChange
  | .channelAnnounced _ _ => onDataChannel tab.channels
  | .channelOpen _ => onopen
  | .channelMessage _ data => onmessage data
  | .channelError _ => onerror
  | .channelClosed _ => onclose

/-- An uncaught exception ends the handler and nothing else. -/
def settle : EStateM.Result Fault Tab Unit → Tab
  | .ok _ tab => tab
  | .error err tab => { tab with uncaught := tab.uncaught ++ [err] }

/-- The page and its events. -/
def machine : Automaton Tab Event where
  init := .initial
  step tab ev :=
    if ev.enabled tab then
      some (settle ((ev.handler L B tab).run (ev.record tab)))
    else none

/-! ### Specifications -/

section Specs

variable {L} {B} {tab tab' : Tab} {ev : Event}

theorem step_eq (h : (machine L B).step tab ev = some tab') :
    ev.enabled tab = true ∧
      tab' = settle ((ev.handler L B tab).run (ev.record tab)) := by
  simp only [machine] at h
  split at h
  · exact ⟨‹_›, (Option.some.inj h).symm⟩
  · cases h

theorem step_of_run (enabled : ev.enabled tab = true)
    (run : (ev.handler L B tab).run (ev.record tab) = .ok () tab') :
    (machine L B).step tab ev = some tab' := by
  simp only [machine, enabled, if_true, run]
  rfl

/-- The page after `quit`. -/
def Tab.left (tab : Tab) (dc : DcId) (pc : PcId) : Tab :=
  { tab with
    dataChannel := none
    peerConnection := none
    closedPeers := tab.closedPeers ++ [pc]
    acts := tab.acts ++ [.closeChannel dc] ++ [.closePeer pc]
    stdout := tab.stdout ++ utf16 "Client exits gracefully." ++ utf16 "\n" }

theorem run_quit {dc : DcId} {pc : PcId} (channel : tab.dataChannel = some dc)
    (peer : tab.peerConnection = some pc) : quit.run tab = .ok () (tab.left dc pc) := by
  simp [quit, act, output, channel, peer, Tab.left]

theorem run_quit_null {dc : DcId} (channel : tab.dataChannel = some dc)
    (peer : tab.peerConnection = none) :
    quit.run tab = .error .typeError { tab with
      dataChannel := none
      acts := tab.acts ++ [.closeChannel dc] } := by
  simp [quit, act, channel, peer]

/-- The page after the channel took what was typed. -/
def Tab.sent (tab : Tab) (dc : DcId) : Tab :=
  { tab with
    stdin := []
    acts := tab.acts ++ [.channelSend dc tab.typed] }

/-- What the channel throws. -/
def SendAnswer.fault : SendAnswer → Option Fault
  | .taken => none
  | .tooLarge => some .typeError
  | .bufferFull => some .operationError

theorem SendAnswer.eq_taken {answer : SendAnswer} (calm : answer.fault = none) :
    answer = .taken := by
  cases answer with
  | taken => rfl
  | tooLarge => cases calm
  | bufferFull => cases calm

/-- What a click on `send` can do. -/
inductive Sent (tab : Tab) (answer : SendAnswer) : Tab → Prop where
  | null : tab.dataChannel = none →
      Sent tab answer { tab with stdin := [], uncaught := tab.uncaught ++ [.typeError] }
  | refused {dc : DcId} : tab.dataChannel = some dc → tab.channelState dc ≠ .open →
      Sent tab answer { tab with stdin := [], uncaught := tab.uncaught ++ [.invalidStateError] }
  | declined {dc : DcId} {err : Fault} : tab.dataChannel = some dc →
      tab.channelState dc = .open → answer.fault = some err →
      Sent tab answer { tab with stdin := [], uncaught := tab.uncaught ++ [err] }
  | text {dc : DcId} : tab.dataChannel = some dc → tab.channelState dc = .open →
      answer = .taken → tab.stdin ≠ utf16 "exit" → Sent tab answer (tab.sent dc)
  | quit {dc : DcId} {pc : PcId} : tab.dataChannel = some dc → tab.channelState dc = .open →
      answer = .taken → tab.peerConnection = some pc → Sent tab answer ((tab.sent dc).left dc pc)
  | lone {dc : DcId} : tab.dataChannel = some dc → tab.channelState dc = .open →
      answer = .taken → tab.peerConnection = none → Sent tab answer { tab.sent dc with
        dataChannel := none
        acts := (tab.sent dc).acts ++ [.closeChannel dc]
        uncaught := tab.uncaught ++ [.typeError] }

theorem run_send_taken {dc : DcId} (channel : tab.dataChannel = some dc)
    (isOpen : tab.channelState dc = .open) :
    (send .taken).run tab =
      (if tab.stdin = utf16 "exit" then quit else pure ()).run (tab.sent dc) := by
  simp [send, input, act, channelSend, channel, isOpen, Tab.sent, Tab.typed]

theorem run_send_declined {answer : SendAnswer} {err : Fault} {dc : DcId}
    (channel : tab.dataChannel = some dc) (isOpen : tab.channelState dc = .open)
    (declined : answer.fault = some err) :
    (send answer).run tab = .error err { tab with stdin := [] } := by
  cases answer <;> cases declined <;> simp [send, input, channelSend, channel, isOpen]

theorem sent_of_click {answer : SendAnswer}
    (h : (machine L B).step tab (.clickSend answer) = some tab') : Sent tab answer tab' := by
  obtain ⟨-, rfl⟩ := step_eq h
  simp only [Event.handler, Event.record]
  cases channel : tab.dataChannel with
  | none =>
      have run : (send answer).run tab = .error .typeError { tab with stdin := [] } := by
        simp [send, input, channel]
      rw [run]
      exact .null channel
  | some dc =>
      by_cases isOpen : tab.channelState dc = .open
      · cases declined : answer.fault with
        | some err =>
            rw [run_send_declined channel isOpen declined]
            exact .declined channel isOpen declined
        | none =>
            obtain rfl := SendAnswer.eq_taken declined
            rw [run_send_taken channel isOpen]
            split
            · cases peer : tab.peerConnection with
              | none =>
                  have throws : quit.run (tab.sent dc) = _ := run_quit_null channel peer
                  rw [throws]
                  exact .lone channel isOpen rfl peer
              | some pc =>
                  have quits : quit.run (tab.sent dc) = _ := run_quit channel peer
                  rw [quits]
                  exact .quit channel isOpen rfl peer
            · exact .text channel isOpen rfl ‹_›
      · have run : (send answer).run tab = .error .invalidStateError { tab with stdin := [] } := by
          simp [send, input, channelSend, channel, isOpen]
        rw [run]
        exact .refused channel isOpen

/-- The page after a click on `connect`. -/
def Tab.connected (tab : Tab) : Tab :=
  { tab with
    webSocketConnection := some tab.sockets
    sockets := tab.sockets + 1
    readyState := Function.update tab.readyState tab.sockets .connecting }

theorem step_clickConnect : (machine L B).step tab .clickConnect = some tab.connected :=
  rfl

/-- The page after a socket has opened. -/
def Tab.opened (tab : Tab) (ws : SocketId) : Tab :=
  { tab with
    readyState := Function.update tab.readyState ws .open
    peerConnection := some tab.peers
    dataChannel := some tab.channels
    peers := tab.peers + 1
    iceConnectionState := Function.update tab.iceConnectionState tab.peers .new
    opener := Function.update tab.opener tab.peers ws
    channels := tab.channels + 1
    channelPeer := Function.update tab.channelPeer tab.channels tab.peers
    channelState := Function.update tab.channelState tab.channels .connecting
    requests := tab.requests ++ [tab.peers] }

theorem run_onWebSocketOpen (ws : SocketId) :
    (onWebSocketOpen ws).run (Event.record tab (.socketOpen ws)) = .ok () (tab.opened ws) := by
  simp [onWebSocketOpen, Event.record, Tab.opened]

theorem step_socketOpen {ws : SocketId} (known : ws < tab.sockets)
    (connecting : tab.readyState ws = .connecting) :
    (machine L B).step tab (.socketOpen ws) = some (tab.opened ws) := by
  have enabled : Event.enabled tab (.socketOpen ws) = true := by
    simp [Event.enabled, known, connecting]
  simp only [machine, enabled, if_true, Event.handler, run_onWebSocketOpen]
  rfl

/-- A text goes out in UTF-8. -/
theorem typed_of_text {s : String} (typed : tab.stdin = utf16 s) : tab.typed = utf8 s := by
  rw [Tab.typed, typed, Utf16.scalars_utf16, String.ofList_toList]

theorem run_onmessage (data : Bytes) :
    (onmessage data).run tab = .ok () { tab with
      stdout := tab.stdout ++
        (utf16 "Data Channel onmessage:" ++ utf16 "[object ArrayBuffer]" ++ utf16 "\n") ++
        (fromCharCode data ++ utf16 "\n") } := by
  simp [onmessage, output]

/-- A message that can be read is handed to the peer connection. -/
theorem run_onWebSocketMessage {data : Bytes} {action : RemoteAction} {pc : PcId}
    (read : readMessage L B data = .ok action) (peer : tab.peerConnection = some pc) :
    (onWebSocketMessage L B data).run tab =
      .ok () { tab with acts := tab.acts ++ [.remote pc action] } := by
  simp [onWebSocketMessage, read, act, peer]

/-- An offer is applied and sent. -/
theorem run_onOfferSuccess (sdp : String) {pc : PcId} {ws : SocketId}
    (peer : tab.peerConnection = some pc) (socket : tab.webSocketConnection = some ws)
    (done : tab.readyState ws ≠ .connecting) :
    (onOfferSuccess L sdp).run tab = .ok () { tab with
      stdout := tab.stdout ++ utf16 "[client] onOfferSuccess" ++ utf16 "\n"
      acts := tab.acts ++
        [.setLocalDescription pc sdp, .socketSend ws (offerText L (utf8 sdp))] } := by
  simp [onOfferSuccess, socketSend, output, act, peer, socket, done]

theorem exists_step (enabled : ev.enabled tab = true) :
    ∃ tab', (machine L B).step tab ev = some tab' := by
  simp only [machine, enabled, if_true]
  exact ⟨_, rfl⟩

end Specs

end Browser

end WebrtcSample
