import WebrtcSample.Util.Ice
import WebrtcSample.Lib.Effect
import Mathlib.Logic.Function.Basic

/-!
The state one program of the sample works on, and the effects of its code.

Both programs keep the same members: a WebSocket handle, a list of ICE
candidates and, in `WebRTCManager`, the pointers of `Connection`. `Endpoint`
holds them next to what websocketpp and libwebrtc keep for the program, and a
log of the library calls the program made. `Prog` is the code's effect: it reads
and writes the endpoint, and it can leave a function without returning, by an
exception, by `exit(EXIT_FAILURE)` or by dereferencing a null pointer. The state
at that moment is kept.

websocketpp is a submodule and not among the sources; it is taken as it is
documented. `send` and `close` need an open connection, `pause_reading` a connection
in any state and `stop_listening` a listening acceptor, and each throws if it does not
find it.
-/

namespace WebrtcSample

/-! ### Names for library objects -/

/-- `websocketpp::connection_hdl`. -/
abbrev Hdl := Nat

/-- A peer connection, numbered in the order of creation. -/
abbrev PcId := Nat

/-- A data channel, numbered in the order in which the program first meets it. -/
abbrev DcId := Nat

/-- A WebSocket connection as this side's websocketpp sees it. It is no longer open
once either side has begun to close it or the transport has failed, and closed once
its close handler is called. -/
inductive WsState where
  | absent
  | open
  | closing
  | closed
deriving DecidableEq, Repr

/-- `webrtc::DataChannelInterface::DataState`. -/
inductive DataState where
  | connecting
  | open
  | closing
  | closed
deriving DecidableEq, Repr

/-- A data channel only moves forward through its states. -/
def DataState.before : DataState → DataState → Bool
  | .connecting, .connecting => false
  | .connecting, _ => true
  | .open, .closing => true
  | .open, .closed => true
  | .closing, .closed => true
  | _, _ => false

/-- The descriptions this program creates and parses. -/
inductive SdpType where
  | offer
  | answer
deriving DecidableEq, Repr

/-- A session description. SDP is UTF-8 text; `text` is what `ToString` writes. -/
structure SessionDescription where
  type : SdpType
  text : String
deriving DecidableEq, Repr

/-- A local or parsed ICE candidate; `candidate` is what `ToString` writes. -/
structure IceCandidate where
  candidate : String
  sdpMid : String
  sdpMlineIndex : Int32
deriving DecidableEq, Repr

/-- `webrtc::SdpParseError`. -/
structure SdpParseError where
  line : Bytes
  description : Bytes
deriving DecidableEq, Repr

/-- What libwebrtc answers. The parsers are functions of their input; whether
the factory yields an object is a choice for each object. -/
structure WebRtc where
  createSessionDescription : SdpType → Bytes → Except SdpParseError SessionDescription
  /-- The candidate, or null, and the error record as the parser leaves it. -/
  createIceCandidate : Bytes → Int32 → Bytes → Option IceCandidate × SdpParseError
  /-- `CreatePeerConnection` for the object of this number is not null. -/
  createPeerConnection : PcId → Bool
  /-- `CreateDataChannel` for the object of this number is not null. -/
  createDataChannel : DcId → Bool

/-- A libwebrtc that knows one description and one candidate, and always creates
the objects it is asked for. -/
def WebRtc.reference : WebRtc where
  createSessionDescription type sdp :=
    if sdp = utf8 "v=0" then .ok ⟨type, "v=0"⟩
    else .error ⟨sdp, utf8 "Expect line: v="⟩
  createIceCandidate sdpMid sdpMlineIndex candidate :=
    if sdpMid = utf8 "0" ∧ candidate = utf8 "candidate:1" then
      (some ⟨"candidate:1", "0", sdpMlineIndex⟩, ⟨[], []⟩)
    else (none, ⟨candidate, utf8 "Failed to parse candidate."⟩)
  createPeerConnection _ := true
  createDataChannel _ := true

/-- A call of the program on websocketpp or libwebrtc. `pushIce` marks an entry
of `push_ice` with the pointer it is about to use, `onSuccess` a call of the
program's own `on_success`. -/
inductive Call where
  | wsSend (hdl : Option Hdl) (payload : Bytes)
  | pauseReading (hdl : Option Hdl)
  | wsClose (hdl : Option Hdl)
  | stopListening
  | createPeerConnection (pc : Option PcId)
  | createDataChannel (pc : PcId) (dc : Option DcId)
  | registerObserver (dc : DcId)
  | createOffer (pc : PcId)
  | createAnswer (pc : PcId)
  | createSessionDescription (type : SdpType) (sdp : Bytes)
  | setLocalDescription (pc : PcId) (desc : SessionDescription)
  | setRemoteDescription (pc : PcId) (desc : SessionDescription)
  | onSuccess
  | pushIce (pc : Option PcId) (ice : Ice)
  | addIceCandidate (pc : PcId) (candidate : Option IceCandidate)
  | send (dc : DcId) (data : Bytes)
  | close (pc : PcId)
deriving DecidableEq

/-- A call by which the program uses its data channel or reacts to it. -/
def Call.isChannelCall : Call → Bool
  | .onSuccess => true
  | .wsClose _ => true
  | .send _ _ => true
  | _ => false

/-- A call that neither concerns the data channel nor stops the server. -/
def Call.isPlain : Call → Bool
  | .onSuccess => false
  | .wsClose _ => false
  | .send _ _ => false
  | .stopListening => false
  | _ => true

theorem Call.isChannelCall_of_isPlain {c : Call} (plain : c.isPlain = true) :
    c.isChannelCall = false := by
  cases c <;> first | rfl | cases plain

/-! ### State and effects -/

/-- One program's members and what the libraries keep for it. -/
structure Endpoint where
  /-- `ws_hdl_`. -/
  wsHdl : Option Hdl
  /-- `ice_list_`. -/
  iceList : List Ice
  /-- `connection.peer_connection`. -/
  peerConnection : Option PcId
  /-- `connection.data_channel`. -/
  dataChannel : Option DcId
  conns : Hdl → WsState
  /-- The object of a closed connection is no more; a handle is only a weak pointer. -/
  gone : Hdl → Bool
  /-- The acceptor is listening. -/
  listening : Bool
  /-- Peer connections created so far. -/
  peers : Nat
  /-- `CreateOffer` and `CreateAnswer` requests not yet reported back. -/
  requests : List PcId
  /-- Peer connections with a local description: those that gather candidates. -/
  described : List PcId
  /-- Data channels met so far. -/
  channels : Nat
  channelPeer : DcId → PcId
  channelState : DcId → DataState
  /-- Channels on which the program registered its observer. -/
  observed : List DcId
  /-- Payloads websocketpp accepted and the network has not picked up yet. -/
  outbox : List Bytes
  calls : List Call

namespace Endpoint

/-- A program that has just been constructed. -/
def initial : Endpoint where
  wsHdl := none
  iceList := []
  peerConnection := none
  dataChannel := none
  conns _ := .absent
  gone _ := false
  listening := true
  peers := 0
  requests := []
  described := []
  channels := 0
  channelPeer _ := 0
  channelState _ := .connecting
  observed := []
  outbox := []
  calls := []

/-- The handle names a connection on which websocketpp accepts a message. -/
def isOpen (e : Endpoint) : Bool :=
  match e.wsHdl with
  | none => false
  | some hdl => e.conns hdl = .open

/-- There is no connection to the handle. -/
def lost (e : Endpoint) : Bool :=
  match e.wsHdl with
  | none => true
  | some hdl => e.conns hdl = .closed ∧ e.gone hdl

/-- What websocketpp throws for a handle that names no open connection. -/
def refusal (e : Endpoint) : Bytes :=
  if e.lost then utf8 "Bad Connection" else utf8 "invalid state"

/-- Add a call to the log. -/
def log (e : Endpoint) (c : Call) : Endpoint := { e with calls := e.calls ++ [c] }

theorem isOpen_iff {e : Endpoint} :
    e.isOpen = true ↔ ∃ hdl, e.wsHdl = some hdl ∧ e.conns hdl = .open := by
  cases current : e.wsHdl <;> simp [isOpen, current]

theorem lost_of_open {e : Endpoint} (isOpen : e.isOpen = true) : e.lost = false := by
  obtain ⟨hdl, current, up⟩ := isOpen_iff.mp isOpen
  simp [lost, current, up]

end Endpoint

/-- The ways out of a function other than returning. -/
inductive Abort where
  | exception (what : Bytes)
  | exitFailure
  | nullDereference
deriving DecidableEq, Repr

/-- Code of one program. -/
abbrev Prog := EStateM Abort Endpoint

namespace Prog

def call (c : Call) : Prog Unit := modify fun e => e.log c

/-- `p->…`. -/
def deref {α : Type} : Option α → Prog α
  | some a => pure a
  | none => throw .nullDereference

/-- A call that may throw. -/
def throwing {α : Type} : Throwing α → Prog α
  | .ok a => pure a
  | .error what => throw (.exception what)

/-- `exit(EXIT_FAILURE)`. -/
def exit {α : Type} : Prog α := throw .exitFailure

/-- `ws_.send(ws_hdl_, payload, text)`, the overload that throws. -/
def wsSend (payload : Bytes) : Prog Unit := do
  let e ← get
  call (.wsSend e.wsHdl payload)
  if e.isOpen then
    modify fun e => { e with outbox := e.outbox ++ [payload] }
  else
    throw (.exception e.refusal)

/-- `ws_.pause_reading(ws_hdl_)`, which needs a connection in any state. -/
def pauseReading : Prog Unit := do
  let e ← get
  call (.pauseReading e.wsHdl)
  if e.lost then
    throw (.exception e.refusal)

/-- `ws_.close(ws_hdl_, normal, "")`: an open connection starts closing. -/
def wsClose : Prog Unit := do
  let e ← get
  call (.wsClose e.wsHdl)
  match e.wsHdl with
  | none => throw (.exception e.refusal)
  | some hdl =>
      if e.conns hdl = .open then
        modify fun e => { e with conns := Function.update e.conns hdl .closing }
      else
        throw (.exception e.refusal)

/-- `ws_server_.stop_listening()`; only a listening server can stop. -/
def stopListening : Prog Unit := do
  call .stopListening
  if (← get).listening then
    modify fun e => { e with listening := false }
  else
    throw (.exception (utf8 "invalid state"))

section Run

variable {α β : Type} {e : Endpoint}

@[simp] theorem run_call (c : Call) : (call c).run e = .ok () (e.log c) := rfl

@[simp] theorem run_deref_some (a : α) : (deref (some a)).run e = .ok a e := rfl

@[simp] theorem run_deref_none : (deref (none : Option α)).run e = .error .nullDereference e := rfl

@[simp] theorem run_throwing_ok (a : α) : (throwing (.ok a)).run e = .ok a e := rfl

@[simp] theorem run_throwing_error (what : Bytes) :
    (throwing (.error what : Throwing α)).run e = .error (.exception what) e := rfl

@[simp] theorem run_exit : (exit : Prog α).run e = .error .exitFailure e := rfl

/-- `send` records the attempt and then either queues the payload or throws. -/
theorem run_wsSend (payload : Bytes) :
    (wsSend payload).run e =
      if e.isOpen then
        .ok () { e.log (.wsSend e.wsHdl payload) with outbox := e.outbox ++ [payload] }
      else .error (.exception e.refusal) (e.log (.wsSend e.wsHdl payload)) := by
  simp only [wsSend, EStateM.run_bind, EStateM.run_get, run_call]
  split <;> rfl

theorem run_wsSend_open (payload : Bytes) (isOpen : e.isOpen = true) :
    (wsSend payload).run e = .ok ()
      { e.log (.wsSend e.wsHdl payload) with outbox := e.outbox ++ [payload] } := by
  rw [run_wsSend, if_pos isOpen]

theorem final_wsSend (payload : Bytes) :
    Effect.final ((wsSend payload).run e) =
      { e.log (.wsSend e.wsHdl payload) with
        outbox := e.outbox ++ if e.isOpen then [payload] else [] } := by
  rw [run_wsSend]
  split
  · rfl
  · rw [List.append_nil]
    rfl

theorem run_pauseReading :
    pauseReading.run e =
      if e.lost then .error (.exception e.refusal) (e.log (.pauseReading e.wsHdl))
      else .ok () (e.log (.pauseReading e.wsHdl)) := by
  simp only [pauseReading, EStateM.run_bind, EStateM.run_get, run_call]
  split <;> rfl

/-- `close` starts closing an open connection and throws on any other. -/
theorem run_wsClose {hdl : Hdl} (current : e.wsHdl = some hdl) (isOpen : e.conns hdl = .open) :
    wsClose.run e = .ok ()
      { e.log (.wsClose (some hdl)) with conns := Function.update e.conns hdl .closing } := by
  simp [wsClose, current, isOpen, Endpoint.log]

theorem run_wsClose_shut (shut : e.isOpen = false) :
    wsClose.run e = .error (.exception e.refusal) (e.log (.wsClose e.wsHdl)) := by
  simp only [wsClose, EStateM.run_bind, EStateM.run_get, run_call]
  split
  · rfl
  · rename_i hdl current
    have other : e.conns hdl ≠ .open := by simpa [Endpoint.isOpen, current] using shut
    rw [if_neg other]
    rfl

/-- `stop_listening` works once. -/
theorem run_stopListening :
    stopListening.run e =
      if e.listening then .ok () { e.log .stopListening with listening := false }
      else .error (.exception (utf8 "invalid state")) (e.log .stopListening) := by
  have same : (e.log .stopListening).listening = e.listening := rfl
  simp only [stopListening, EStateM.run_bind, EStateM.run_get, run_call, same]
  split <;> rfl

end Run

/-! ### What is left alone -/

section Frames

open Effect

variable {γ : Type*} {f : Endpoint → γ}

theorem keeps_deref {α : Type} (o : Option α) : Keeps f (deref o) := by
  cases o with
  | none => exact keeps_throw _
  | some a => exact keeps_pure a

theorem keeps_call_of_ignores {c : Call} (ignores : ∀ e, f (Endpoint.log e c) = f e) :
    Keeps f (call c) := ignores

/-- `send` on the WebSocket touches the log and the outbox. -/
theorem keeps_wsSend_of_ignores
    (ignores : ∀ e c, c.isPlain = true → f (Endpoint.log e c) = f e)
    (outbox : ∀ e payloads, f { e with outbox := payloads } = f e) (payload : Bytes) :
    Keeps f (wsSend payload) := by
  intro e
  rw [run_wsSend]
  split
  · exact (outbox _ _).trans (ignores e _ rfl)
  · exact ignores e _ rfl

end Frames

end Prog

end WebrtcSample
