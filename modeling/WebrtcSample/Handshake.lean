import WebrtcSample.Server
import WebrtcSample.Client

/-!
What a step of a program does to the handshake.

`Signaling` is the part of an endpoint the handshake is about: the handle, the
pointer to the peer connection, the candidate list, and of the call log only the
calls by which the program speaks to its peer (`said`) or takes in what the peer
said (`heard`). Most code leaves it alone; that is proved by frame rules.
`Local` lists what remains: everything a step other than a new connection or a
message can do to it. It holds of both programs (`local_of_step`), so the
invariants of a session are proved from these few cases.
-/

namespace WebrtcSample

open Prog Effect

/-- A call by which the program speaks. -/
def Call.isSaid : Call → Bool
  | .wsSend _ _ => true
  | .setLocalDescription _ _ => true
  | _ => false

/-- A call by which the program takes in what its peer said. -/
def Call.isHeard : Call → Bool
  | .createSessionDescription _ _ => true
  | .setRemoteDescription _ _ => true
  | .pushIce _ _ => true
  | _ => false

/-- An endpoint as far as the handshake goes. -/
@[ext] structure Signaling where
  wsHdl : Option Hdl
  iceList : List Ice
  peerConnection : Option PcId
  peers : Nat
  requests : List PcId
  described : List PcId
  outbox : List Bytes
  said : List Call
  heard : List Call

namespace Endpoint

def signaling (e : Endpoint) : Signaling where
  wsHdl := e.wsHdl
  iceList := e.iceList
  peerConnection := e.peerConnection
  peers := e.peers
  requests := e.requests
  described := e.described
  outbox := e.outbox
  said := e.calls.filter Call.isSaid
  heard := e.calls.filter Call.isHeard

/-- The handshake and the state of the connections. -/
def wire (e : Endpoint) : Signaling × (Hdl → WsState) := (e.signaling, e.conns)

end Endpoint

/-! ### Code that leaves the handshake alone -/

section Frames

theorem keeps_call {c : Call} (said : c.isSaid = false) (heard : c.isHeard = false) :
    Keeps Endpoint.wire (call c) := by
  intro e
  simp [Endpoint.wire, Endpoint.signaling, Endpoint.log, said, heard]

theorem keeps_send (parameter : Bytes) : Keeps Endpoint.wire (WebRtcManager.send parameter) :=
  keeps_get.bind fun _ => (keeps_deref _).bind fun _ => keeps_call rfl rfl

theorem keeps_onDataChannel (dc : DcId) : Keeps Endpoint.wire (Connection.onDataChannel dc) :=
  (keeps_modify fun _ => rfl).bind fun _ =>
    (keeps_call rfl rfl).bind fun _ => keeps_modify fun _ => rfl

theorem keeps_stopListening : Keeps Endpoint.wire stopListening :=
  (keeps_call rfl rfl).bind fun _ => keeps_get.bind fun _ =>
    Keeps.ite (keeps_modify fun _ => rfl) (keeps_throw _)

theorem Server.keeps_onMessage (message : Bytes) :
    Keeps Endpoint.wire (Server.onMessage message) :=
  keeps_stopListening.ite (keeps_send _)

/-- `on_success` of the server may close the connection, and does no more. -/
theorem Server.onSuccess_wire (e : Endpoint) :
    (final (Server.onSuccess.run e)).signaling = e.signaling ∧
      ∀ hdl, (final (Server.onSuccess.run e)).conns hdl = e.conns hdl ∨
        e.conns hdl = .open ∧ (final (Server.onSuccess.run e)).conns hdl = .closing := by
  have unsaid : (Server.closeCalls e).filter Call.isSaid = [] := by
    unfold Server.closeCalls
    split <;> rfl
  have unheard : (Server.closeCalls e).filter Call.isHeard = [] := by
    unfold Server.closeCalls
    split <;> rfl
  cases isOpen : e.isOpen with
  | false =>
      rw [Server.run_onSuccess_shut isOpen]
      exact ⟨by simp [Endpoint.signaling, unsaid, unheard], fun _ => .inl rfl⟩
  | true =>
      obtain ⟨h, current, up⟩ := Endpoint.isOpen_iff.mp isOpen
      rw [Server.run_onSuccess current up]
      refine ⟨by simp [Endpoint.signaling, unsaid, unheard], fun hdl => ?_⟩
      by_cases same : hdl = h
      · subst same
        simp [up]
      · simp [same]

end Frames

/-! ### What a program that speaks does -/

/-- What the two programs have in common: they send each description as
`message` and each candidate as its JSON text, a closed connection is only
noted, and nothing else in their callbacks touches the handshake, except that
`on_success` may start closing a connection. -/
structure Speaks (m : Manager) (L : JsonLibs) (message : Bytes → Bytes) : Prop where
  onSdp : ∀ sdp, m.callbacks.onSdp sdp = wsSend (message sdp)
  onIce : ∀ ice, m.callbacks.onIce ice = reportIce L ice
  closeHandler : ∀ hdl, m.closeHandler hdl = modify fun e => { e with wsHdl := some hdl }
  onMessage : ∀ data, Keeps Endpoint.wire (m.callbacks.onMessage data)
  onSuccess : ∀ e, (final (m.callbacks.onSuccess.run e)).signaling = e.signaling ∧
    ∀ hdl, (final (m.callbacks.onSuccess.run e)).conns hdl = e.conns hdl ∨
      e.conns hdl = .open ∧ (final (m.callbacks.onSuccess.run e)).conns hdl = .closing

theorem Server.speaks (L : JsonLibs) (W : WebRtc) : Speaks (manager L W) L (answerMessage L) where
  onSdp _ := rfl
  onIce _ := rfl
  closeHandler _ := rfl
  onMessage := keeps_onMessage
  onSuccess := onSuccess_wire

theorem Client.speaks (L : JsonLibs) (W : WebRtc) : Speaks (manager L W) L (offerMessage L) where
  onSdp _ := rfl
  onIce _ := rfl
  closeHandler _ := rfl
  onMessage _ := keeps_pure ()
  onSuccess _ := ⟨rfl, fun _ => .inl rfl⟩

/-- An event of a session with one connection that is neither the connection's
opening nor a message on it. -/
def Event.isLocal : Event → Bool
  | .wsOpen _ => false
  | .wsFail hdl => hdl = 0
  | .wsClose hdl => hdl = 0
  | .wsClosing hdl => hdl = 0
  | .wsGone hdl => hdl = 0
  | .wsMessage _ _ => false
  | _ => true

/-- The event after which this side receives nothing more. -/
def Event.endsConnection : Event → Bool
  | .wsFail _ => true
  | .wsClose _ => true
  | _ => false

/-- An event whose code has nothing to do with the handshake. -/
def Event.isQuiet : Event → Bool
  | .callback (.dataChannel _) => true
  | .callback (.stateChange _ _) => true
  | .callback (.message _ _) => true
  | .wsClosing _ => true
  | .wsGone _ => true
  | .runReturned => true
  | .line _ => true
  | .eof => true
  | _ => false

namespace Process

def signaling (p : Process) : Signaling := p.state.signaling

/-- The session's connection as this side sees it. -/
def conn (p : Process) : WsState := p.state.conns 0

end Process

/-- What a local step does to the handshake. -/
inductive Local (L : JsonLibs) (message : Bytes → Bytes) (p : Process) : Event → Process → Prop
  | quiet {ev : Event} {q : Process} (same : q.signaling = p.signaling)
      (conn : q.conn = p.conn ∨ p.conn = .open ∧ q.conn = .closing)
      (isQuiet : ev.isQuiet = true) : Local L message p ev q
  | failed {q : Process} (same : q.signaling = p.signaling) (absent : p.conn = .absent)
      (conn : q.conn = .closed) : Local L message p (.wsFail 0) q
  | closed {q : Process} (same : q.signaling = { p.signaling with wsHdl := some 0 })
      (present : p.conn ≠ .absent) (conn : q.conn = .closed) : Local L message p (.wsClose 0) q
  | withdrawn {pc : PcId} {q : Process} (pending : pc ∈ p.signaling.requests)
      (same : q.signaling = { p.signaling with requests := p.signaling.requests.erase pc })
      (conn : q.conn = p.conn) : Local L message p (.callback (.sdpFailed pc)) q
  | described {pc cur : PcId} {desc : SessionDescription} {q : Process}
      (pending : pc ∈ p.signaling.requests) (current : p.signaling.peerConnection = some cur)
      (same : q.signaling = { p.signaling with
        requests := p.signaling.requests.erase pc
        described := p.signaling.described ++ [cur]
        said := p.signaling.said ++ [.setLocalDescription cur desc,
          .wsSend p.signaling.wsHdl (message (utf8 desc.text))]
        outbox := p.signaling.outbox ++
          if p.state.isOpen then [message (utf8 desc.text)] else [] })
      (conn : q.conn = p.conn) : Local L message p (.callback (.sdpCreated pc desc)) q
  | undescribed {pc : PcId} {desc : SessionDescription} {q : Process}
      (pending : pc ∈ p.signaling.requests) (null : p.signaling.peerConnection = none)
      (same : q.signaling = { p.signaling with requests := p.signaling.requests.erase pc })
      (conn : q.conn = p.conn) : Local L message p (.callback (.sdpCreated pc desc)) q
  | candidate {pc : PcId} {candidate : IceCandidate} {q : Process}
      (gathers : pc ∈ p.signaling.described)
      (same : q.signaling = { p.signaling with
        iceList := p.signaling.iceList ++ [Connection.toIce candidate]
        said := p.signaling.said ++
          [.wsSend p.signaling.wsHdl ((Connection.toIce candidate).toJsonString L)]
        outbox := p.signaling.outbox ++
          if p.state.isOpen then [(Connection.toIce candidate).toJsonString L] else [] })
      (conn : q.conn = p.conn) : Local L message p (.callback (.iceCandidate pc candidate)) q
  | quit {q : Process} {pc : Option PcId}
      (same : q.signaling = { p.signaling with peerConnection := pc })
      (ended : q.phase.alive = false) (conn : q.conn = p.conn) : Local L message p .quit q

section LocalSteps

variable {m : Manager} {L : JsonLibs} {message : Bytes → Bytes} {p q : Process} {ev : Event}

/-- Code that keeps the handshake and the connections makes a quiet step. -/
theorem Local.of_keeps (kept : Keeps Endpoint.wire (ev.code m p.state))
    (entered : (ev.enter p.state).wire = p.state.wire) (isQuiet : ev.isQuiet = true)
    (h : Process.step m p ev = some q) : Local L message p ev q := by
  have same : q.state.wire = p.state.wire := by
    rw [Process.state_of_step h, kept, entered]
  exact .quiet (congrArg Prod.fst same) (.inl (congrFun (congrArg Prod.snd same) 0)) isQuiet

/-- `on_success_csd` applies the description to the current peer connection and
sends its text. -/
theorem signaling_onSuccessCsd (speaks : Speaks m L message) {e : Endpoint} {cur : PcId}
    (desc : SessionDescription) (current : e.peerConnection = some cur) :
    (final ((Connection.onSuccessCsd m.callbacks desc).run e)).signaling = { e.signaling with
        described := e.described ++ [cur]
        said := e.signaling.said ++
          [.setLocalDescription cur desc, .wsSend e.wsHdl (message (utf8 desc.text))]
        outbox := e.outbox ++ if e.isOpen then [message (utf8 desc.text)] else [] } ∧
      (final ((Connection.onSuccessCsd m.callbacks desc).run e)).conns = e.conns := by
  rw [Connection.run_onSuccessCsd _ _ current, speaks.onSdp, run_wsSend]
  have same : Endpoint.isOpen { e.log (.setLocalDescription cur desc) with
      described := e.described ++ [cur] } = e.isOpen := rfl
  rw [same]
  split <;> simp [Endpoint.signaling, Endpoint.log, Call.isSaid, Call.isHeard]

/-- `on_ice_candidate` keeps the candidate and sends it. -/
theorem signaling_onIceCandidate (speaks : Speaks m L message) (e : Endpoint)
    (candidate : IceCandidate) :
    (final ((Connection.onIceCandidate m.callbacks candidate).run e)).signaling =
      { e.signaling with
        iceList := e.iceList ++ [Connection.toIce candidate]
        said := e.signaling.said ++
          [.wsSend e.wsHdl ((Connection.toIce candidate).toJsonString L)]
        outbox := e.outbox ++
          if e.isOpen then [(Connection.toIce candidate).toJsonString L] else [] } ∧
      (final ((Connection.onIceCandidate m.callbacks candidate).run e)).conns = e.conns := by
  rw [Connection.onIceCandidate, speaks.onIce, run_reportIce, run_wsSend]
  have same : Endpoint.isOpen { e with iceList := e.iceList ++ [Connection.toIce candidate] } =
      e.isOpen := rfl
  rw [same]
  split <;> simp [Endpoint.signaling, Endpoint.log, Call.isSaid, Call.isHeard]

theorem signaling_onStateChange (speaks : Speaks m L message) (e : Endpoint) :
    (final ((Connection.onStateChange m.callbacks).run e)).signaling = e.signaling ∧
      ∀ hdl, (final ((Connection.onStateChange m.callbacks).run e)).conns hdl = e.conns hdl ∨
        e.conns hdl = .open ∧
          (final ((Connection.onStateChange m.callbacks).run e)).conns hdl = .closing := by
  cases current : e.dataChannel with
  | none =>
      rw [Connection.run_onStateChange_null _ current]
      exact ⟨rfl, fun _ => .inl rfl⟩
  | some cur =>
      rw [Connection.run_onStateChange _ current]
      split
      · obtain ⟨signaling, conns⟩ := speaks.onSuccess (e.log .onSuccess)
        refine ⟨signaling.trans ?_, conns⟩
        simp [Endpoint.signaling, Endpoint.log, Call.isSaid, Call.isHeard]
      · exact ⟨rfl, fun _ => .inl rfl⟩

theorem Local.of_sdpCreated (speaks : Speaks m L message) {pc : PcId} {desc : SessionDescription}
    (h : Process.step m p (.callback (.sdpCreated pc desc)) = some q) :
    Local L message p (.callback (.sdpCreated pc desc)) q := by
  have pending : pc ∈ p.state.requests := by
    have enabled := (Process.step_eq_some h).1
    simp only [Event.enabled, Callback.enabled, decide_eq_true_eq] at enabled
    exact enabled.2
  cases current : p.state.peerConnection with
  | none =>
      have here : (Event.enter p.state (.callback (.sdpCreated pc desc))).peerConnection =
          none := current
      obtain ⟨state, -⟩ :=
        Process.step_error h (Connection.run_onSuccessCsd_null m.callbacks desc here)
      refine .undescribed pending current ?_ ?_
      · rw [Process.signaling, state]; rfl
      · rw [Process.conn, state]; rfl
  | some cur =>
      have here : (Event.enter p.state (.callback (.sdpCreated pc desc))).peerConnection =
          some cur := current
      obtain ⟨signaling, conns⟩ := signaling_onSuccessCsd speaks desc here
      refine .described pending current ?_ ?_
      · rw [Process.signaling, Process.state_of_step h]
        exact signaling
      · rw [Process.conn, Process.state_of_step h]
        exact congrFun conns 0

theorem Local.of_iceCandidate (speaks : Speaks m L message) {pc : PcId}
    {candidate : IceCandidate}
    (h : Process.step m p (.callback (.iceCandidate pc candidate)) = some q) :
    Local L message p (.callback (.iceCandidate pc candidate)) q := by
  have gathers : pc ∈ p.state.described := by
    have enabled := (Process.step_eq_some h).1
    simp only [Event.enabled, Callback.enabled, decide_eq_true_eq] at enabled
    exact enabled.2
  obtain ⟨signaling, conns⟩ := signaling_onIceCandidate speaks p.state candidate
  refine .candidate gathers ?_ ?_
  · rw [Process.signaling, Process.state_of_step h]
    exact signaling
  · rw [Process.conn, Process.state_of_step h]
    exact congrFun conns 0

theorem Local.of_quit (h : Process.step m p .quit = some q) : Local L message p .quit q := by
  obtain ⟨-, ending⟩ := Process.step_eq_some h
  have ended : q.phase.alive = false := by
    rcases ending with ⟨-, -, -, phase⟩ | ⟨why, -, -, -, phase⟩ <;> rw [phase] <;> rfl
  have state : q.state = final (WebRtcManager.quit.run p.state) := Process.state_of_step h
  cases current : p.state.peerConnection with
  | none =>
      rw [WebRtcManager.run_quit_null current, final_error] at state
      have same : q.signaling = { p.signaling with peerConnection := p.state.peerConnection } := by
        rw [Process.signaling, state]; rfl
      exact .quit same ended (by rw [Process.conn, state]; rfl)
  | some pc =>
      rw [WebRtcManager.run_quit current, final_ok] at state
      have same : q.signaling = { p.signaling with peerConnection := none } := by
        simp [Process.signaling, state, Endpoint.signaling, Endpoint.log, Call.isSaid, Call.isHeard]
      exact .quit same ended (by rw [Process.conn, state]; rfl)

/-- Every local step of a program that speaks is one of the listed ones. -/
theorem local_of_step (speaks : Speaks m L message) (isLocal : ev.isLocal = true)
    (h : Process.step m p ev = some q) : Local L message p ev q := by
  cases ev with
  | wsOpen hdl => cases isLocal
  | wsMessage hdl payload => cases isLocal
  | wsFail hdl =>
      obtain rfl : hdl = 0 := by simpa [Event.isLocal] using isLocal
      have enabled := (Process.step_eq_some h).1
      simp only [Event.enabled, decide_eq_true_eq] at enabled
      refine .failed ?_ enabled.2.2 ?_
      · rw [Process.signaling, Process.state_of_step h]; rfl
      · rw [Process.conn, Process.state_of_step h]; rfl
  | wsClose hdl =>
      obtain rfl : hdl = 0 := by simpa [Event.isLocal] using isLocal
      have enabled := (Process.step_eq_some h).1
      simp only [Event.enabled, decide_eq_true_eq] at enabled
      have present : p.conn ≠ .absent := by
        rcases enabled.2 with isOpen | isClosing
        · simp [Process.conn, isOpen]
        · simp [Process.conn, isClosing]
      have state : q.state = final ((m.closeHandler 0).run _) := Process.state_of_step h
      rw [speaks.closeHandler] at state
      refine .closed ?_ present ?_
      · rw [Process.signaling, state]; rfl
      · rw [Process.conn, state]; rfl
  | wsClosing hdl =>
      obtain rfl : hdl = 0 := by simpa [Event.isLocal] using isLocal
      have enabled := (Process.step_eq_some h).1
      simp only [Event.enabled, decide_eq_true_eq] at enabled
      refine .quiet ?_ (.inr ⟨enabled.2, ?_⟩) rfl
      · rw [Process.signaling, Process.state_of_step h]; rfl
      · rw [Process.conn, Process.state_of_step h]; rfl
  | wsGone hdl => exact .of_keeps (keeps_pure ()) rfl rfl h
  | callback c =>
      cases c with
      | sdpCreated pc desc => exact .of_sdpCreated speaks h
      | iceCandidate pc candidate => exact .of_iceCandidate speaks h
      | stateChange dc st =>
          obtain ⟨signaling, conns⟩ := signaling_onStateChange speaks
            (Event.enter p.state (.callback (.stateChange dc st)))
          refine .quiet ?_ ?_ rfl
          · rw [Process.signaling, Process.state_of_step h]
            exact signaling
          · rw [Process.conn, Process.state_of_step h]
            exact conns 0
      | sdpFailed pc =>
          have enabled := (Process.step_eq_some h).1
          simp only [Event.enabled, Callback.enabled, decide_eq_true_eq] at enabled
          refine .withdrawn enabled.2 ?_ ?_
          · rw [Process.signaling, Process.state_of_step h]; rfl
          · rw [Process.conn, Process.state_of_step h]; rfl
      | dataChannel pc => exact .of_keeps (keeps_onDataChannel _) rfl rfl h
      | message dc data => exact .of_keeps (speaks.onMessage data) rfl rfl h
  | runReturned => exact .of_keeps (keeps_pure ()) rfl rfl h
  | line text => exact .of_keeps (keeps_send text) rfl rfl h
  | eof => exact .of_keeps (keeps_pure ()) rfl rfl h
  | quit => exact .of_quit h

end LocalSteps

/-- A local step takes nothing in and creates no peer connection. -/
theorem Local.heard_eq {L : JsonLibs} {message : Bytes → Bytes} {p q : Process} {ev : Event}
    (h : Local L message p ev q) :
    q.signaling.heard = p.signaling.heard ∧ q.signaling.peers = p.signaling.peers := by
  cases h with
  | quiet same | failed same | closed same | withdrawn _ same | described _ _ same
  | undescribed _ _ same | candidate _ same | quit same => exact ⟨by rw [same], by rw [same]⟩

/-- A connection that is not closed has not been closed by this step. -/
theorem Local.going {L : JsonLibs} {message : Bytes → Bytes} {p q : Process} {ev : Event}
    (h : Local L message p ev q) (present : q.conn ≠ .closed) :
    p.conn ≠ .closed ∧ ev.endsConnection = false := by
  cases h with
  | quiet _ conn isQuiet =>
      constructor
      · intro closed
        rcases conn with same | ⟨before, -⟩
        · exact present (same.trans closed)
        · simp [closed] at before
      · cases ev with
        | wsFail | wsClose => cases isQuiet
        | _ => rfl
  | failed _ _ conn => exact absurd conn present
  | closed _ _ conn => exact absurd conn present
  | withdrawn _ _ conn | described _ _ _ conn | undescribed _ _ _ conn | candidate _ _ conn
  | quit _ _ conn => exact ⟨by rwa [conn] at present, rfl⟩

/-- A local step brings no connection up. -/
theorem Local.present {L : JsonLibs} {message : Bytes → Bytes} {p q : Process} {ev : Event}
    (h : Local L message p ev q) (up : q.conn = .open ∨ q.conn = .closing) :
    p.conn = .open ∨ p.conn = .closing := by
  cases h with
  | quiet _ conn =>
      rcases conn with same | ⟨before, -⟩
      · rwa [same] at up
      · exact .inl before
  | failed _ _ conn => simp [conn] at up
  | closed _ _ conn => simp [conn] at up
  | withdrawn _ _ conn | described _ _ _ conn | undescribed _ _ _ conn | candidate _ _ conn
  | quit _ _ conn => rwa [conn] at up

/-! ### A new connection -/

/-- The server only notes the handle. -/
theorem Server.signaling_open {L : JsonLibs} {W : WebRtc} {p q : Process}
    (h : Process.step (Server.manager L W) p (.wsOpen 0) = some q) :
    p.conn = .absent ∧ q.conn = .open ∧ q.signaling = { p.signaling with wsHdl := some 0 } := by
  have enabled := (Process.step_eq_some h).1
  simp only [Event.enabled, decide_eq_true_eq] at enabled
  refine ⟨enabled.2.2, ?_, ?_⟩
  · rw [Process.conn, Process.state_of_step h]; rfl
  · rw [Process.signaling, Process.state_of_step h]; rfl

/-- The client creates its peer connection and asks for an offer, or dies on a
null pointer. -/
theorem Client.signaling_open {L : JsonLibs} {W : WebRtc} {p q : Process}
    (h : Process.step (Client.manager L W) p (.wsOpen 0) = some q) :
    p.conn = .absent ∧ q.conn = .open ∧
      (q.signaling = { p.signaling with
          wsHdl := some 0
          peerConnection := some p.signaling.peers
          peers := p.signaling.peers + 1
          requests := p.signaling.requests ++ [p.signaling.peers] } ∨
        q.phase.alive = false ∧ ∃ pc peers, peers ≤ p.signaling.peers + 1 ∧
          q.signaling = { p.signaling with wsHdl := some 0, peerConnection := pc, peers }) := by
  have enabled := (Process.step_eq_some h).1
  simp only [Event.enabled, decide_eq_true_eq] at enabled
  let e : Endpoint :=
    { p.state with conns := Function.update p.state.conns 0 .open, wsHdl := some 0 }
  have run : ((Event.wsOpen 0).code (Client.manager L W) p.state).run
      (Event.enter p.state (.wsOpen 0)) = (WebRtcManager.createOfferSdp W).run e := rfl
  cases pc : W.createPeerConnection e.peers with
  | false =>
      obtain ⟨state, phase⟩ :=
        Process.step_error h (run.trans (WebRtcManager.run_createOfferSdp_noPeer pc))
      refine ⟨enabled.2.2, by rw [Process.conn, state]; rfl, .inr ⟨by rw [phase]; rfl, none,
        p.signaling.peers, Nat.le_succ _, ?_⟩⟩
      simp [Process.signaling, state, Endpoint.signaling, Call.isSaid, Call.isHeard, e]
  | true =>
      cases dc : W.createDataChannel e.channels with
      | false =>
          obtain ⟨state, phase⟩ :=
            Process.step_error h (run.trans (WebRtcManager.run_createOfferSdp_noChannel pc dc))
          refine ⟨enabled.2.2, by rw [Process.conn, state]; rfl, .inr ⟨by rw [phase]; rfl,
            some p.signaling.peers, p.signaling.peers + 1, le_rfl, ?_⟩⟩
          simp [Process.signaling, state, Endpoint.signaling, Call.isSaid, Call.isHeard, e]
      | true =>
          obtain ⟨state, -⟩ :=
            Process.step_ok h (run.trans (WebRtcManager.run_createOfferSdp pc dc))
          refine ⟨enabled.2.2, by rw [Process.conn, state]; rfl, .inl ?_⟩
          simp [Process.signaling, state, Endpoint.signaling, WebRtcManager.offerCalls,
            Call.isSaid, Call.isHeard, e]

/-! ### A message -/

section Messages

open WebRtcManager

variable {L : JsonLibs} {W : WebRtc}

/-- `push_ice` marks its entry and touches nothing else of the handshake. -/
theorem signaling_pushIce (e : Endpoint) (ice : Ice) :
    (final ((pushIce W ice).run e)).signaling =
        { e.signaling with heard := e.signaling.heard ++ [.pushIce e.peerConnection ice] } ∧
      (final ((pushIce W ice).run e)).conns = e.conns := by
  by_cases rejected : Rejects W ice
  · rw [run_pushIce_rejected rejected]
    simp [Endpoint.signaling, Endpoint.log, Call.isSaid, Call.isHeard]
  · cases current : e.peerConnection with
    | none =>
        rw [run_pushIce_null current rejected]
        simp [Endpoint.signaling, Endpoint.log, Call.isSaid, Call.isHeard, current]
    | some pc =>
        rw [run_pushIce current rejected]
        simp [Endpoint.signaling, List.filter_cons, Call.isSaid, Call.isHeard, current]

variable {m : Manager} {type key : Bytes} {take : Bytes → Prog Unit} {p q : Process}
  {payload : Bytes}

/-- A candidate that is read reaches `push_ice` with the pointer as it is. -/
theorem signaling_ice
    (handler : m.messageHandler = receive L W type key take) {ice : Ice}
    (read : dispatch L type key payload = .ok (.ice ice))
    (h : Process.step m p (.wsMessage 0 payload) = some q) :
    q.conn = p.conn ∧ q.signaling = { p.signaling with
      wsHdl := some 0
      heard := p.signaling.heard ++ [.pushIce p.signaling.peerConnection ice] } := by
  have state : q.state = final ((m.messageHandler 0 payload).run p.state) := Process.state_of_step h
  rw [handler, run_receive, read] at state
  obtain ⟨signaling, conns⟩ := signaling_pushIce (W := W) { p.state with wsHdl := some 0 } ice
  refine ⟨?_, ?_⟩
  · rw [Process.conn, state]
    exact congrFun conns 0
  · rw [Process.signaling, state]
    exact signaling

/-- A payload that cannot be read ends the process. -/
theorem signaling_unreadable
    (handler : m.messageHandler = receive L W type key take) {what : Bytes}
    (read : dispatch L type key payload = .error what)
    (h : Process.step m p (.wsMessage 0 payload) = some q) :
    q.phase.alive = false ∧ q.conn = p.conn ∧
      q.signaling = { p.signaling with wsHdl := some 0 } := by
  have run : ((Event.wsMessage 0 payload).code m p.state).run
      (Event.enter p.state (.wsMessage 0 payload)) =
        .error (.exception what) { p.state with wsHdl := some 0 } := by
    show (m.messageHandler 0 payload).run p.state = _
    rw [handler, run_receive, read]
  obtain ⟨state, phase⟩ := Process.step_error h run
  refine ⟨by rw [phase]; rfl, ?_, ?_⟩
  · rw [Process.conn, state]; rfl
  · rw [Process.signaling, state]; rfl

/-- An offer makes the server create a peer connection and apply the offer to
it, or ends the process. -/
theorem Server.signaling_offer {sdp : Bytes} (read : Server.request L payload = .ok (.sdp sdp))
    (h : Process.step (Server.manager L W) p (.wsMessage 0 payload) = some q) :
    q.conn = p.conn ∧
      ((∃ desc, W.createSessionDescription .offer sdp = .ok desc ∧
          q.signaling = { p.signaling with
            wsHdl := some 0
            peerConnection := some p.signaling.peers
            peers := p.signaling.peers + 1
            requests := p.signaling.requests ++ [p.signaling.peers]
            heard := p.signaling.heard ++ [.createSessionDescription .offer sdp,
              .setRemoteDescription p.signaling.peers desc] }) ∨
        q.phase.alive = false ∧ ∃ pc peers heard, peers ≤ p.signaling.peers + 1 ∧
          heard <+: [.createSessionDescription .offer sdp] ∧
          q.signaling = { p.signaling with
            wsHdl := some 0
            peerConnection := pc
            peers := peers
            heard := p.signaling.heard ++ heard }) := by
  rcases Server.offer_cases read h with
    ⟨desc, parsed, -, state⟩ | ⟨phase, state⟩ | ⟨phase, state⟩
  · refine ⟨by rw [Process.conn, state]; rfl, .inl ⟨desc, parsed, ?_⟩⟩
    simp [Process.signaling, state, Endpoint.signaling, answerCalls, List.filter_cons,
      Call.isSaid, Call.isHeard]
  · refine ⟨by rw [Process.conn, state]; rfl, .inr ⟨by rw [phase]; rfl, none,
      p.signaling.peers, [], Nat.le_succ _, List.nil_prefix, ?_⟩⟩
    simp [Process.signaling, state, Endpoint.signaling, Call.isSaid, Call.isHeard]
  · refine ⟨by rw [Process.conn, state]; rfl, .inr ⟨by rw [phase]; rfl,
      some p.signaling.peers, p.signaling.peers + 1, _, le_rfl, List.prefix_refl _, ?_⟩⟩
    simp [Process.signaling, state, Endpoint.signaling, Call.isSaid, Call.isHeard]

/-- An answer is applied to the client's peer connection, or ends the process. -/
theorem Client.signaling_answer {sdp : Bytes} {pc : PcId}
    (read : Client.request L payload = .ok (.sdp sdp))
    (current : p.signaling.peerConnection = some pc)
    (h : Process.step (Client.manager L W) p (.wsMessage 0 payload) = some q) :
    q.conn = p.conn ∧
      ((∃ desc, W.createSessionDescription .answer sdp = .ok desc ∧
          q.signaling = { p.signaling with
            wsHdl := some 0
            heard := p.signaling.heard ++ [.createSessionDescription .answer sdp,
              .setRemoteDescription pc desc] }) ∨
        q.phase.alive = false ∧
          q.signaling = { p.signaling with
            wsHdl := some 0
            heard := p.signaling.heard ++ [.createSessionDescription .answer sdp] }) := by
  have run : ((Event.wsMessage 0 payload).code (Client.manager L W) p.state).run
      (Event.enter p.state (.wsMessage 0 payload)) =
        (pushReplySdp W sdp).run { p.state with wsHdl := some 0 } := by
    show (Client.messageHandler L W 0 payload).run p.state = _
    rw [Client.run_messageHandler, read]
  cases parsed : W.createSessionDescription .answer sdp with
  | error err =>
      obtain ⟨state, phase⟩ := Process.step_error h (run.trans (run_pushReplySdp_badAnswer parsed))
      refine ⟨by rw [Process.conn, state]; rfl, .inr ⟨by rw [phase]; rfl, ?_⟩⟩
      simp [Process.signaling, state, Endpoint.signaling, Endpoint.log, Call.isSaid, Call.isHeard]
  | ok desc =>
      have here : ({ p.state with wsHdl := some 0 } : Endpoint).peerConnection = some pc := current
      obtain ⟨state, -⟩ := Process.step_ok h (run.trans (run_pushReplySdp here parsed))
      refine ⟨by rw [Process.conn, state]; rfl, .inl ⟨desc, rfl, ?_⟩⟩
      simp [Process.signaling, state, Endpoint.signaling, Call.isSaid, Call.isHeard]

/-- A message makes the server say nothing. -/
theorem Server.signaling_message
    (h : Process.step (Server.manager L W) p (.wsMessage 0 payload) = some q) :
    q.signaling.said = p.signaling.said ∧ q.signaling.iceList = p.signaling.iceList := by
  cases read : Server.request L payload with
  | error what => simp [(signaling_unreadable rfl read h).2.2]
  | ok request =>
      cases request with
      | ice ice => simp [(signaling_ice rfl read h).2]
      | sdp sdp =>
          obtain ⟨-, ⟨desc, -, same⟩ | ⟨-, pc, peers, heard, -, -, same⟩⟩ :=
            Server.signaling_offer read h <;> simp [same]

/-- A message changes nothing in the client but what it has heard. -/
theorem Client.signaling_message {pc : PcId} (current : p.signaling.peerConnection = some pc)
    (h : Process.step (Client.manager L W) p (.wsMessage 0 payload) = some q) :
    ∃ heard, q.signaling = { p.signaling with wsHdl := some 0, heard := heard } := by
  cases read : Client.request L payload with
  | error what => exact ⟨_, (signaling_unreadable rfl read h).2.2⟩
  | ok request =>
      cases request with
      | ice ice => exact ⟨_, (signaling_ice rfl read h).2⟩
      | sdp sdp =>
          obtain ⟨-, ⟨desc, -, same⟩ | ⟨-, same⟩⟩ := Client.signaling_answer read current h
          · exact ⟨_, same⟩
          · exact ⟨_, same⟩

end Messages

end WebrtcSample
