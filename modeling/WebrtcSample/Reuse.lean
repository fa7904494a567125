import WebrtcSample.Endings

/-!
One server, one client after the other.

The server does not clear anything between two clients: `ice_list_` grows,
`ws_hdl_`, `peer_connection` and `data_channel` keep their last values until a
handler or an observer sets them again. None of this shows. A server that still
listens does for the connections to come exactly what a server that has just been
started would do, with its objects numbered on (`server_serves_again`), whatever it
has served before, as long as it is left alone by the peer connections of earlier
clients. The one thing it does not repeat is the fault of a new server that gets a
candidate before any offer: it has an old peer connection to give it to.
-/

namespace WebrtcSample

open Prog Effect WebRtcManager

/-! ### Names of objects -/

/-- How the objects of a new server are called in one that has been used before: its
connections have other handles, and its peer connections and channels are counted
on. -/
structure Renaming where
  hdl : Hdl → Hdl
  peers : Nat
  channels : Nat
  injective : Function.Injective hdl

variable (r : Renaming)

def Call.rename : Call → Call
  | .wsSend hdl payload => .wsSend (hdl.map r.hdl) payload
  | .pauseReading hdl => .pauseReading (hdl.map r.hdl)
  | .wsClose hdl => .wsClose (hdl.map r.hdl)
  | .stopListening => .stopListening
  | .createPeerConnection pc => .createPeerConnection (pc.map (· + r.peers))
  | .createDataChannel pc dc => .createDataChannel (pc + r.peers) (dc.map (· + r.channels))
  | .registerObserver dc => .registerObserver (dc + r.channels)
  | .createOffer pc => .createOffer (pc + r.peers)
  | .createAnswer pc => .createAnswer (pc + r.peers)
  | .createSessionDescription type sdp => .createSessionDescription type sdp
  | .setLocalDescription pc desc => .setLocalDescription (pc + r.peers) desc
  | .setRemoteDescription pc desc => .setRemoteDescription (pc + r.peers) desc
  | .onSuccess => .onSuccess
  | .pushIce pc ice => .pushIce (pc.map (· + r.peers)) ice
  | .addIceCandidate pc candidate => .addIceCandidate (pc + r.peers) candidate
  | .send dc data => .send (dc + r.channels) data
  | .close pc => .close (pc + r.peers)

/-- A call on one of the libraries, and no mark of the program's own. -/
def Call.isUse : Call → Bool
  | .onSuccess => false
  | .pushIce _ _ => false
  | _ => true

def Callback.rename : Callback → Callback
  | .sdpCreated pc desc => .sdpCreated (pc + r.peers) desc
  | .sdpFailed pc => .sdpFailed (pc + r.peers)
  | .iceCandidate pc candidate => .iceCandidate (pc + r.peers) candidate
  | .dataChannel pc => .dataChannel (pc + r.peers)
  | .stateChange dc state => .stateChange (dc + r.channels) state
  | .message dc data => .message (dc + r.channels) data

def Event.rename : Event → Event
  | .wsOpen hdl => .wsOpen (r.hdl hdl)
  | .wsFail hdl => .wsFail (r.hdl hdl)
  | .wsClose hdl => .wsClose (r.hdl hdl)
  | .wsClosing hdl => .wsClosing (r.hdl hdl)
  | .wsGone hdl => .wsGone (r.hdl hdl)
  | .wsMessage hdl payload => .wsMessage (r.hdl hdl) payload
  | .callback c => .callback (c.rename r)
  | .runReturned => .runReturned
  | .line text => .line text
  | .eof => .eof
  | .quit => .quit

/-- The library, for a program that is started when so many peer connections have
been created. -/
def WebRtc.later (W : WebRtc) (peers : Nat) : WebRtc :=
  { W with createPeerConnection := fun pc => W.createPeerConnection (pc + peers) }

/-! ### The same state under other names -/

/-- `e` is the state `e₀` of a new program, under the names `r`, on top of what was
there in the state `b`. Pointers that the new program has not set yet may have any
value. -/
structure Like (b e₀ e : Endpoint) : Prop where
  wsHdl : ∀ hdl, e₀.wsHdl = some hdl → e.wsHdl = some (r.hdl hdl)
  iceList : e.iceList = b.iceList ++ e₀.iceList
  peerConnection : ∀ pc, e₀.peerConnection = some pc → e.peerConnection = some (pc + r.peers)
  dataChannel : ∀ dc, e₀.dataChannel = some dc →
    dc < e₀.channels ∧ e.dataChannel = some (dc + r.channels)
  conns : ∀ hdl, e.conns (r.hdl hdl) = e₀.conns hdl
  gone : ∀ hdl, e.gone (r.hdl hdl) = e₀.gone hdl
  listening : e.listening = e₀.listening
  peers : e.peers = e₀.peers + r.peers
  requests : e.requests = b.requests ++ e₀.requests.map (· + r.peers)
  described : e.described = b.described ++ e₀.described.map (· + r.peers)
  channels : e.channels = e₀.channels + r.channels
  channelState : ∀ dc < e₀.channels, e.channelState (dc + r.channels) = e₀.channelState dc
  observed : e.observed = b.observed ++ e₀.observed.map (· + r.channels)
  known : ∀ dc ∈ e₀.observed, dc < e₀.channels
  outbox : e.outbox = b.outbox ++ e₀.outbox
  calls : e.calls.filter Call.isUse =
    b.calls.filter Call.isUse ++ (e₀.calls.filter Call.isUse).map (Call.rename r)

/-- The objects of the old program, with the names they have below those of the new
one. -/
structure Below (b : Endpoint) : Prop where
  requests : ∀ pc ∈ b.requests, pc < r.peers
  described : ∀ pc ∈ b.described, pc < r.peers
  observed : ∀ dc ∈ b.observed, dc < r.channels

/-- Two ways for the same code to end, from states that are alike. A null pointer of
the new program says nothing about the other. -/
inductive Tracks (b : Endpoint) :
    EStateM.Result Abort Endpoint Unit → EStateM.Result Abort Endpoint Unit → Prop where
  | ok {e₀ e : Endpoint} (like : Like r b e₀ e) : Tracks b (.ok () e₀) (.ok () e)
  | error {why : Abort} {e₀ e : Endpoint} (like : Like r b e₀ e) :
      Tracks b (.error why e₀) (.error why e)
  | null {e₀ : Endpoint} {result : EStateM.Result Abort Endpoint Unit} :
      Tracks b (.error .nullDereference e₀) result

variable {r} {b e₀ e : Endpoint}

/-- The same calls, under other names. -/
theorem Like.append (like : Like r b e₀ e) (cs : List Call) :
    Like r b { e₀ with calls := e₀.calls ++ cs }
      { e with calls := e.calls ++ cs.map (Call.rename r) } := by
  have same : ∀ c : Call, (c.rename r).isUse = c.isUse := by
    intro c
    cases c <;> rfl
  refine { like with calls := ?_ }
  simp only [List.filter_append, like.calls, List.map_append, List.append_assoc,
    List.filter_map, Function.comp_def, same]

theorem Like.log (like : Like r b e₀ e) (c : Call) : Like r b (e₀.log c) (e.log (c.rename r)) :=
  like.append [c]

/-- A mark may differ. -/
theorem Like.mark (like : Like r b e₀ e) {c c' : Call} (mark : c.isUse = false)
    (mark' : c'.isUse = false) : Like r b (e₀.log c) (e.log c') := by
  refine { like with calls := ?_ }
  simp only [Endpoint.log, List.filter_append, List.filter_cons, List.filter_nil, like.calls, mark,
    mark', Bool.false_eq_true, if_false, List.append_nil]

theorem Like.isOpen (like : Like r b e₀ e) (set : e₀.wsHdl.isSome = true) :
    e.isOpen = e₀.isOpen ∧ e.wsHdl = e₀.wsHdl.map r.hdl := by
  obtain ⟨hdl, current⟩ := Option.isSome_iff_exists.mp set
  have other := like.wsHdl hdl current
  simp [Endpoint.isOpen, current, other, like.conns]

/-- A connection that is missed is missed in both. -/
theorem Like.lost (like : Like r b e₀ e) (set : e₀.wsHdl.isSome = true) :
    e.lost = e₀.lost ∧ e.refusal = e₀.refusal := by
  obtain ⟨hdl, current⟩ := Option.isSome_iff_exists.mp set
  have same : e.lost = e₀.lost := by
    simp [Endpoint.lost, current, like.wsHdl hdl current, like.conns, like.gone]
  exact ⟨same, by rw [Endpoint.refusal, same, Endpoint.refusal]⟩

theorem Renaming.update_hdl {α : Type} (r : Renaming) {kept kept₀ : Hdl → α}
    (same : ∀ hdl, kept (r.hdl hdl) = kept₀ hdl) (hdl : Hdl) (state : α) (other : Hdl) :
    Function.update kept (r.hdl hdl) state (r.hdl other) =
      Function.update kept₀ hdl state other := by
  by_cases this : other = hdl
  · rw [this, Function.update_self, Function.update_self]
  · rw [Function.update_of_ne this, Function.update_of_ne (r.injective.ne this), same]

theorem Like.update_channelState (like : Like r b e₀ e) {dc other : DcId} (state : DataState)
    (known : other = dc ∨ other < e₀.channels) :
    Function.update e.channelState (dc + r.channels) state (other + r.channels) =
      Function.update e₀.channelState dc state other := by
  by_cases this : other = dc
  · rw [this, Function.update_self, Function.update_self]
  · have apart : other + r.channels ≠ dc + r.channels := fun same =>
      this (Nat.add_right_cancel same)
    rw [Function.update_of_ne this, Function.update_of_ne apart,
      like.channelState other (known.resolve_left this)]

/-! ### The code -/

theorem Like.wsSend (like : Like r b e₀ e) (set : e₀.wsHdl.isSome = true) (payload : Bytes) :
    Tracks r b ((wsSend payload).run e₀) ((wsSend payload).run e) := by
  obtain ⟨isOpen, hdl⟩ := like.isOpen set
  have logged := like.log (.wsSend e₀.wsHdl payload)
  rw [run_wsSend, run_wsSend, isOpen, hdl, (like.lost set).2]
  split
  · refine .ok { logged with outbox := ?_ }
    simp [like.outbox]
  · exact .error logged

theorem Like.reportIce {L : JsonLibs} (like : Like r b e₀ e) (set : e₀.wsHdl.isSome = true)
    (ice : Ice) : Tracks r b ((reportIce L ice).run e₀) ((reportIce L ice).run e) := by
  rw [run_reportIce, run_reportIce]
  have listed : Like r b { e₀ with iceList := e₀.iceList ++ [ice] }
      { e with iceList := e.iceList ++ [ice] } :=
    { like with iceList := by simp [like.iceList] }
  exact listed.wsSend set _

theorem Like.onSuccessCsd {L : JsonLibs} (like : Like r b e₀ e) (set : e₀.wsHdl.isSome = true)
    (desc : SessionDescription) :
    Tracks r b ((Connection.onSuccessCsd (Server.callbacks L) desc).run e₀)
      ((Connection.onSuccessCsd (Server.callbacks L) desc).run e) := by
  cases current : e₀.peerConnection with
  | none =>
      rw [Connection.run_onSuccessCsd_null _ _ current]
      exact .null
  | some pc =>
      rw [Connection.run_onSuccessCsd _ _ current,
        Connection.run_onSuccessCsd _ _ (like.peerConnection pc current)]
      have logged := like.log (.setLocalDescription pc desc)
      have applied : Like r b
          { e₀.log (.setLocalDescription pc desc) with described := e₀.described ++ [pc] }
          { e.log (.setLocalDescription (pc + r.peers) desc) with
            described := e.described ++ [pc + r.peers] } :=
        { logged with described := by simp [like.described] }
      exact applied.wsSend set _

theorem Like.onSuccess (like : Like r b e₀ e) (set : e₀.wsHdl.isSome = true) :
    Tracks r b (Server.onSuccess.run e₀) (Server.onSuccess.run e) := by
  obtain ⟨isOpen, named⟩ := like.isOpen set
  obtain ⟨lost, refusal⟩ := like.lost set
  have logged := like.append (Server.closeCalls e₀)
  have calls : (Server.closeCalls e₀).map (Call.rename r) = Server.closeCalls e := by
    rw [Server.closeCalls, Server.closeCalls, lost, named]
    split <;> rfl
  rw [calls] at logged
  cases up : e₀.isOpen with
  | true =>
      obtain ⟨hdl, current, conn⟩ := Endpoint.isOpen_iff.mp up
      have there : e.conns (r.hdl hdl) = .open := by rw [like.conns, conn]
      rw [Server.run_onSuccess current conn, Server.run_onSuccess (like.wsHdl hdl current) there]
      exact .ok { logged with conns := r.update_hdl like.conns hdl _ }
  | false =>
      rw [Server.run_onSuccess_shut up, Server.run_onSuccess_shut (isOpen.trans up), refusal]
      exact .error logged

theorem Like.onStateChange {L : JsonLibs} (like : Like r b e₀ e) (set : e₀.wsHdl.isSome = true) :
    Tracks r b ((Connection.onStateChange (Server.callbacks L)).run e₀)
      ((Connection.onStateChange (Server.callbacks L)).run e) := by
  cases current : e₀.dataChannel with
  | none =>
      rw [Connection.run_onStateChange_null _ current]
      exact .null
  | some dc =>
      obtain ⟨known, other⟩ := like.dataChannel dc current
      rw [Connection.run_onStateChange _ current, Connection.run_onStateChange _ other,
        like.channelState dc known]
      split
      · exact (like.mark rfl rfl).onSuccess set
      · exact .ok like

theorem Like.send (like : Like r b e₀ e) (data : Bytes) :
    Tracks r b ((WebRtcManager.send data).run e₀) ((WebRtcManager.send data).run e) := by
  cases current : e₀.dataChannel with
  | none =>
      rw [run_send_null _ current]
      exact .null
  | some dc =>
      rw [run_send _ current, run_send _ (like.dataChannel dc current).2]
      exact .ok (like.log _)

theorem Like.onMessage (like : Like r b e₀ e) (data : Bytes) :
    Tracks r b ((Server.onMessage data).run e₀) ((Server.onMessage data).run e) := by
  by_cases exit : data = utf8 "exit"
  · rw [exit, Server.run_onMessage_exit, Server.run_onMessage_exit, run_stopListening,
      run_stopListening, like.listening]
    have logged := like.log .stopListening
    split
    · exact .ok { logged with listening := rfl }
    · exact .error logged
  · rw [Server.run_onMessage_echo exit, Server.run_onMessage_echo exit]
    exact like.send _

theorem Like.quit (like : Like r b e₀ e) :
    Tracks r b (WebRtcManager.quit.run e₀) (WebRtcManager.quit.run e) := by
  cases current : e₀.peerConnection with
  | none =>
      rw [run_quit_null current]
      exact .null
  | some pc =>
      rw [run_quit current, run_quit (like.peerConnection pc current)]
      have logged := like.log (.close pc)
      exact .ok { logged with
        peerConnection := fun _ none => nomatch none
        dataChannel := fun _ none => nomatch none }

theorem Like.createAnswerSdp {W : WebRtc} (like : Like r b e₀ e) (sdp : Bytes) :
    Tracks r b ((createAnswerSdp (W.later r.peers) sdp).run e₀)
      ((createAnswerSdp W sdp).run e) := by
  have choice : (W.later r.peers).createPeerConnection e₀.peers =
      W.createPeerConnection e.peers := by
    rw [like.peers]
    rfl
  cases made : W.createPeerConnection e.peers with
  | false =>
      rw [run_createAnswerSdp_noPeer _ (choice.trans made), run_createAnswerSdp_noPeer _ made]
      have logged := like.append [.createPeerConnection none]
      exact .error { logged with peerConnection := fun _ none => nomatch none }
  | true =>
      have pointer : ∀ pc, some e₀.peers = some pc → some e.peers = some (pc + r.peers) := by
        rintro pc ⟨⟩
        rw [like.peers]
      have counted : e.peers + 1 = e₀.peers + 1 + r.peers := by
        rw [like.peers, Nat.add_right_comm]
      cases parsed : W.createSessionDescription .offer sdp with
      | error err =>
          rw [run_createAnswerSdp_badOffer (choice.trans made) parsed,
            run_createAnswerSdp_badOffer made parsed]
          have logged := like.append [.createPeerConnection (some e₀.peers),
            .createSessionDescription .offer sdp]
          rw [like.peers] at pointer counted ⊢
          exact .error { logged with peerConnection := pointer, peers := counted }
      | ok desc =>
          rw [run_createAnswerSdp (choice.trans made) parsed, run_createAnswerSdp made parsed]
          have logged := like.append (answerCalls e₀.peers sdp desc)
          rw [like.peers] at pointer counted ⊢
          refine .ok { logged with peerConnection := pointer, peers := counted, requests := ?_ }
          simp [like.requests]

theorem Like.pushIce {W : WebRtc} (like : Like r b e₀ e) (ice : Ice) :
    Tracks r b ((pushIce (W.later r.peers) ice).run e₀) ((pushIce W ice).run e) := by
  by_cases rejected : Rejects W ice
  · have rejected' : Rejects (W.later r.peers) ice := rejected
    rw [run_pushIce_rejected rejected, run_pushIce_rejected rejected']
    exact .error (like.mark rfl rfl)
  · have accepted : ¬ Rejects (W.later r.peers) ice := rejected
    cases current : e₀.peerConnection with
    | none =>
        rw [run_pushIce_null current accepted]
        exact .null
    | some pc =>
        rw [run_pushIce current accepted, run_pushIce (like.peerConnection pc current) rejected]
        exact .ok (like.append _)

theorem Like.messageHandler {L : JsonLibs} {W : WebRtc} (like : Like r b e₀ e) (hdl : Hdl)
    (payload : Bytes) :
    Tracks r b ((Server.messageHandler L (W.later r.peers) hdl payload).run e₀)
      ((Server.messageHandler L W (r.hdl hdl) payload).run e) := by
  have named : Like r b { e₀ with wsHdl := some hdl } { e with wsHdl := some (r.hdl hdl) } :=
    { like with wsHdl := by rintro _ ⟨⟩; rfl }
  rw [Server.run_messageHandler, Server.run_messageHandler]
  cases Server.request L payload with
  | error what => exact .error named
  | ok request =>
      cases request with
      | sdp sdp => exact named.createAnswerSdp sdp
      | ice ice => exact named.pushIce ice

/-! ### The events -/

section Events

variable {L : JsonLibs} {W : WebRtc} {c : Callback} {ev : Event}

/-- A request of the new program is answered; those of the old one stay. -/
theorem Like.erase (like : Like r b e₀ e) (below : Below r b) (pc : PcId) :
    e.requests.erase (pc + r.peers) =
      b.requests ++ (e₀.requests.erase pc).map (· + r.peers) := by
  have old : pc + r.peers ∉ b.requests := fun mem =>
    absurd (below.requests _ mem) (Nat.not_lt_of_le (Nat.le_add_left _ _))
  have injective : Function.Injective fun pc : Nat => pc + r.peers :=
    fun _ _ same => Nat.add_right_cancel same
  rw [like.requests, List.erase_append_right _ old, List.map_erase injective]

/-- What the library keeps before a callback. -/
theorem Like.enter_callback (like : Like r b e₀ e) (below : Below r b) :
    Like r b (c.enter e₀) ((c.rename r).enter e) := by
  cases c with
  | sdpCreated pc desc => exact { like with requests := like.erase below pc }
  | sdpFailed pc => exact { like with requests := like.erase below pc }
  | iceCandidate pc candidate => exact like
  | dataChannel pc =>
      refine { like with dataChannel := ?_, channels := ?_, channelState := ?_, known := ?_ }
      · intro dc current
        obtain ⟨known, other⟩ := like.dataChannel dc current
        exact ⟨Nat.lt_succ_of_lt known, other⟩
      · show e.channels + 1 = e₀.channels + 1 + r.channels
        rw [like.channels, Nat.add_right_comm]
      · intro dc known
        show Function.update e.channelState e.channels .connecting (dc + r.channels) = _
        rw [like.channels]
        exact like.update_channelState _ (Nat.lt_succ_iff_lt_or_eq.mp known).symm
      · intro dc mem
        exact Nat.lt_succ_of_lt (like.known dc mem)
  | stateChange dc state =>
      exact { like with
        channelState := fun other known => like.update_channelState state (.inr known) }
  | message dc data => exact like

/-- What the library keeps before an event. -/
theorem Like.enter (like : Like r b e₀ e) (below : Below r b) :
    Like r b (ev.enter e₀) ((ev.rename r).enter e) := by
  cases ev with
  | wsOpen hdl => exact { like with conns := r.update_hdl like.conns hdl _ }
  | wsFail hdl => exact { like with conns := r.update_hdl like.conns hdl _ }
  | wsClose hdl => exact { like with conns := r.update_hdl like.conns hdl _ }
  | wsClosing hdl => exact { like with conns := r.update_hdl like.conns hdl _ }
  | wsGone hdl => exact { like with gone := r.update_hdl like.gone hdl _ }
  | callback c => exact like.enter_callback below
  | _ => exact like

/-- A name of the new program, among all names. -/
theorem mem_counted {old new : List Nat} {count : Nat} (below : ∀ i ∈ old, i < count) (i : Nat) :
    i + count ∈ old ++ new.map (· + count) ↔ i ∈ new := by
  constructor
  · intro mem
    rcases List.mem_append.mp mem with early | late
    · exact absurd (below _ early) (Nat.not_lt_of_le (Nat.le_add_left _ _))
    · obtain ⟨j, mem, same⟩ := List.mem_map.mp late
      exact Nat.add_right_cancel same ▸ mem
  · intro mem
    exact List.mem_append_right _ (List.mem_map_of_mem mem)

theorem Like.enabled_callback (like : Like r b e₀ e) (below : Below r b) :
    (c.rename r).enabled e = c.enabled e₀ := by
  rw [Bool.eq_iff_iff]
  cases c <;> simp only [Callback.enabled, Callback.rename, decide_eq_true_eq]
  case sdpCreated pc desc =>
    rw [like.requests]
    exact mem_counted below.requests pc
  case sdpFailed pc =>
    rw [like.requests]
    exact mem_counted below.requests pc
  case iceCandidate pc candidate =>
    rw [like.described]
    exact mem_counted below.described pc
  case dataChannel pc =>
    rw [like.peers]
    exact Nat.add_lt_add_iff_right
  case stateChange dc state =>
    rw [like.observed, mem_counted below.observed dc]
    refine and_congr_right fun mem => ?_
    rw [like.channelState dc (like.known dc mem)]
  case message dc data =>
    rw [like.observed]
    exact mem_counted below.observed dc

/-- What can happen to the new program is what can happen to the other. -/
theorem Like.enabled {p₀ p : Process} (like : Like r b p₀.state p.state) (below : Below r b)
    (phase : p.phase = p₀.phase) (ev : Event) :
    (ev.rename r).enabled (Server.manager L W) p =
      ev.enabled (Server.manager L (W.later r.peers)) p₀ := by
  have returns : (Server.manager L W).runReturns p.state =
      (Server.manager L (W.later r.peers)).runReturns p₀.state := congrArg not like.listening
  cases ev <;> simp only [Event.enabled, Event.rename, phase, like.conns, returns,
    like.enabled_callback below] <;> rfl

/-- The observers. -/
theorem Like.code_callback (like : Like r b e₀ e) (below : Below r b)
    (set : e₀.wsHdl.isSome = true) :
    Tracks r b ((c.code (Server.callbacks L) e₀).run (c.enter e₀))
      (((c.rename r).code (Server.callbacks L) e).run ((c.rename r).enter e)) := by
  have entered := like.enter_callback (c := c) below
  cases c with
  | sdpCreated pc desc => exact entered.onSuccessCsd set desc
  | sdpFailed pc => exact .ok entered
  | iceCandidate pc candidate => exact entered.reportIce set (Connection.toIce candidate)
  | dataChannel pc =>
      have logged := entered.log (.registerObserver e₀.channels)
      have other : (Callback.rename r (.dataChannel pc)).code (Server.callbacks L) e =
          Connection.onDataChannel (e₀.channels + r.channels) := by
        rw [← like.channels]
        rfl
      rw [other]
      refine .ok { logged with dataChannel := ?_, observed := ?_, known := ?_ }
      · rintro _ ⟨⟩
        exact ⟨Nat.lt_succ_self _, rfl⟩
      · show e.observed ++ [e₀.channels + r.channels] =
          b.observed ++ (e₀.observed ++ [e₀.channels]).map (· + r.channels)
        rw [like.observed, List.map_append, List.append_assoc]
        rfl
      · intro dc mem
        rcases List.mem_append.mp mem with old | new
        · exact Nat.lt_succ_of_lt (like.known dc old)
        · rw [List.mem_singleton.mp new]
          exact Nat.lt_succ_self _
  | stateChange dc state => exact entered.onStateChange set
  | message dc data => exact entered.onMessage data

theorem Like.code (like : Like r b e₀ e) (below : Below r b)
    (set : ∀ c, ev = .callback c → e₀.wsHdl.isSome = true) :
    Tracks r b ((ev.code (Server.manager L (W.later r.peers)) e₀).run (ev.enter e₀))
      (((ev.rename r).code (Server.manager L W) e).run ((ev.rename r).enter e)) := by
  have entered : Like r b (ev.enter e₀) ((ev.rename r).enter e) := like.enter below
  cases ev with
  | wsOpen hdl => exact .ok { entered with wsHdl := by rintro _ ⟨⟩; rfl }
  | wsFail hdl => exact .ok entered
  | wsClose hdl => exact .ok { entered with wsHdl := by rintro _ ⟨⟩; rfl }
  | wsClosing hdl => exact .ok entered
  | wsGone hdl => exact .ok entered
  | wsMessage hdl payload => exact like.messageHandler hdl payload
  | callback c => exact like.code_callback below (set c rfl)
  | runReturned => exact .ok like
  | line text => exact like.send text
  | eof => exact .ok like
  | quit => exact like.quit

/-- **One step.** What a new server does, a used one does under other names. -/
theorem Like.step {p₀ q₀ p : Process} (like : Like r b p₀.state p.state)
    (below : Below r b) (phase : p.phase = p₀.phase)
    (set : ∀ c, ev = .callback c → p₀.state.wsHdl.isSome = true)
    (h : Process.step (Server.manager L (W.later r.peers)) p₀ ev = some q₀)
    (used : q₀.phase ≠ .aborted .nullDereference) :
    ∃ q, Process.step (Server.manager L W) p (ev.rename r) = some q ∧ q.phase = q₀.phase ∧
      Like r b q₀.state q.state := by
  have tracks := like.code (L := L) (W := W) below set
  obtain ⟨enabled, result⟩ := Process.step_eq_some h
  obtain ⟨q, h'⟩ := Process.exists_step
    ((like.enabled (L := L) (W := W) below phase ev).trans enabled)
  have next : (ev.rename r).next (Server.manager L W) p.phase =
      ev.next (Server.manager L (W.later r.peers)) p₀.phase := by
    rw [phase]
    cases ev <;> rfl
  refine ⟨q, h', ?_⟩
  rcases result with ⟨f₀, run, rfl, phase₀⟩ | ⟨why, f₀, run, rfl, phase₀⟩
  · rw [run] at tracks
    generalize run' : ((ev.rename r).code (Server.manager L W) p.state).run
      ((ev.rename r).enter p.state) = end_ at tracks
    cases tracks with
    | ok after =>
        obtain ⟨rfl, phase'⟩ := Process.step_ok h' run'
        exact ⟨by rw [phase', phase₀, next], after⟩
  · rw [run] at tracks
    generalize run' : ((ev.rename r).code (Server.manager L W) p.state).run
      ((ev.rename r).enter p.state) = end_ at tracks
    cases tracks with
    | error after =>
        obtain ⟨rfl, phase'⟩ := Process.step_error h' run'
        exact ⟨by rw [phase', phase₀], after⟩
    | null => exact absurd phase₀ used

end Events

/-! ### Runs -/

/-- What a new server does in a run, a used one does under other names. -/
theorem Like.run {L : JsonLibs} {W : WebRtc} {es fs : List Event} {p p₀ : Process}
    (run : (Process.machine (Server.manager L W)).run es = some p) (running : p.phase = .running)
    (below : Below r p.state) (start : Like r p.state .initial p.state)
    (fresh : (Process.machine (Server.manager L (W.later r.peers))).run fs = some p₀) :
    p₀.phase ≠ .aborted .nullDereference →
      ∃ q, (Process.machine (Server.manager L W)).run (es ++ fs.map (Event.rename r)) = some q ∧
        q.phase = p₀.phase ∧ Like r p.state p₀.state q.state := by
  refine (Automaton.run_history
    (I := fun fs p₀ => Server.Vital L fs p₀ ∧ (p₀.phase ≠ .aborted .nullDereference →
      ∃ q, (Process.machine (Server.manager L W)).run (es ++ fs.map (Event.rename r)) = some q ∧
        q.phase = p₀.phase ∧ Like r p.state p₀.state q.state)) ?_ ?_ fresh).2
  · refine ⟨Server.vital_initial, fun _ => ⟨p, ?_, running, start⟩⟩
    rw [List.map_nil, List.append_nil, run]
  · rintro fs s ev t ⟨inv, ih⟩ h
    refine ⟨inv.step h, fun used => ?_⟩
    have alive := Process.alive_of_step h
    obtain ⟨q, before, phase, like⟩ := ih fun dead => by
      rw [dead] at alive
      cases alive
    -- a callback belongs to a peer connection, and a handler has made it
    have set : ∀ c, ev = .callback c → s.state.wsHdl.isSome = true := by
      rintro c rfl
      have owner := inv.serving.holds.owned.peer_lt (Process.callback_enabled h)
      exact inv.handled (Nat.zero_lt_of_lt owner)
    obtain ⟨q', step, phase', like'⟩ := like.step below phase set h used
    refine ⟨q', ?_, phase', like'⟩
    rw [List.map_append, ← List.append_assoc]
    exact Automaton.run_concat before step

/-- The names of a second client's objects. -/
def Renaming.second : Renaming := ⟨Nat.succ, 1, 1, fun _ _ same => Nat.succ.inj same⟩

end WebrtcSample
