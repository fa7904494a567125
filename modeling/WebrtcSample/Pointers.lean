import WebrtcSample.Client

/-!
The client's pointers.

`peer_connection` and `data_channel` are set by `OpenHandler` and used by `main`
after the constructor returned, and nothing in the code links the two. They are
set exactly if `OpenHandler` has run and libwebrtc gave it both objects
(`Client.Pointers`), so `main` finds them set exactly if the connection has been
up before it reads its first line (`no_null_dereference_iff`).
-/

namespace WebrtcSample

open Prog Effect WebRtcManager

/-! ### The invariant -/

/-- What the pointers depend on. -/
def Endpoint.pointers (e : Endpoint) :=
  (e.wsHdl, e.peerConnection, e.dataChannel, e.peers, e.conns)

namespace Client

variable {L : JsonLibs} {W : WebRtc} {p q : Process} {ev : Event}

/-- The pointers are set once `OpenHandler` has run; before, nothing has
happened that could set them. -/
structure Pointers (p : Process) : Prop where
  unset : p.state.wsHdl = none → p.state.peers = 0 ∧ p.state.dataChannel = none ∧
    ∀ hdl, p.state.conns hdl ≠ .open ∧ p.state.conns hdl ≠ .closing
  set : p.phase.alive = true → p.state.wsHdl.isSome = true →
    p.state.peerConnection.isSome = true ∧ p.state.dataChannel.isSome = true
  quitting : p.phase = .quitting → p.state.wsHdl.isSome = true

/-- A step that leaves the pointers alone keeps the invariant. -/
theorem Pointers.of_same (inv : Pointers p) (alive : p.phase.alive = true)
    (same : q.state.pointers = p.state.pointers)
    (quitting : q.phase = .quitting → p.state.wsHdl.isSome = true) : Pointers q := by
  simp only [Endpoint.pointers, Prod.mk.injEq] at same
  obtain ⟨hdl, pc, dc, peers, conns⟩ := same
  constructor
  · rw [hdl, dc, peers, conns]
    exact inv.unset
  · rw [hdl, dc, pc]
    intro _
    exact inv.set alive
  · rw [hdl]
    exact quitting

theorem pointers_log (e : Endpoint) (c : Call) (_ : c.isPlain = true) :
    (e.log c).pointers = e.pointers := rfl

/-- Apart from a new data channel, no callback touches the pointers. -/
theorem keeps_callback {c : Callback} (e : Endpoint) (other : ∀ pc, c ≠ .dataChannel pc) :
    Keeps Endpoint.pointers (c.code (callbacks L) e) ∧ (c.enter e).pointers = e.pointers := by
  have sends : ∀ payload, Keeps Endpoint.pointers (wsSend payload) :=
    keeps_wsSend_of_ignores pointers_log fun _ _ => rfl
  cases c with
  | sdpCreated pc desc =>
      exact ⟨keeps_onSuccessCsd_of_ignores pointers_log (fun _ _ => rfl) (sends _), rfl⟩
  | sdpFailed pc => exact ⟨keeps_pure (), rfl⟩
  | iceCandidate pc candidate =>
      exact ⟨keeps_reportIce_of_ignores pointers_log (fun _ _ => rfl) (fun _ _ => rfl) _, rfl⟩
  | dataChannel pc => exact absurd rfl (other pc)
  | stateChange dc st => exact ⟨keeps_onStateChange_of_ignores (fun _ => rfl) (keeps_pure ()), rfl⟩
  | message dc data => exact ⟨keeps_pure (), rfl⟩

/-- A message only sets the handle. -/
theorem pointers_messageHandler (hdl : Hdl) (message : Bytes) (e : Endpoint) :
    (final ((messageHandler L W hdl message).run e)).pointers =
      ({ e with wsHdl := some hdl } : Endpoint).pointers :=
  final_messageHandler_of_ignores pointers_log hdl message e

/-- `OpenHandler` sets both pointers or uses the one libwebrtc left null. -/
theorem openHandler_cases (hdl : Hdl)
    (h : Process.step (manager L W) p (.wsOpen hdl) = some q) :
    (W.createPeerConnection p.state.peers = true ∧ W.createDataChannel p.state.channels = true ∧
        q.phase = p.phase ∧ q.state.wsHdl.isSome = true ∧
        q.state.peerConnection.isSome = true ∧ q.state.dataChannel.isSome = true) ∨
      ((W.createPeerConnection p.state.peers = false ∨
          W.createDataChannel p.state.channels = false) ∧
        q.phase = .aborted .nullDereference ∧ q.state.wsHdl.isSome = true) := by
  let e : Endpoint :=
    { p.state with conns := Function.update p.state.conns hdl .open, wsHdl := some hdl }
  have run : ((Event.wsOpen hdl).code (manager L W) p.state).run
      (Event.enter p.state (.wsOpen hdl)) = (createOfferSdp W).run e := rfl
  cases pc : W.createPeerConnection p.state.peers with
  | false =>
      have none : W.createPeerConnection e.peers = false := pc
      obtain ⟨state, phase⟩ := Process.step_error h (run.trans (run_createOfferSdp_noPeer none))
      exact .inr ⟨.inl rfl, phase, by rw [state]; rfl⟩
  | true =>
      have peer : W.createPeerConnection e.peers = true := pc
      cases dc : W.createDataChannel p.state.channels with
      | false =>
          have none : W.createDataChannel e.channels = false := dc
          obtain ⟨state, phase⟩ :=
            Process.step_error h (run.trans (run_createOfferSdp_noChannel peer none))
          exact .inr ⟨.inr rfl, phase, by rw [state]; rfl⟩
      | true =>
          have channel : W.createDataChannel e.channels = true := dc
          obtain ⟨state, phase⟩ :=
            Process.step_ok h (run.trans (run_createOfferSdp peer channel))
          exact .inl ⟨rfl, rfl, phase, by rw [state]; rfl, by rw [state]; rfl, by rw [state]; rfl⟩

/-- `send` works exactly if there is a data channel. -/
theorem line_cases {text : Bytes} (h : Process.step (manager L W) p (.line text) = some q) :
    (p.state.dataChannel.isSome = true ∧ q.phase ≠ .aborted .nullDereference) ∨
      (p.state.dataChannel = none ∧ q.phase = .aborted .nullDereference) := by
  cases current : p.state.dataChannel with
  | none => exact .inr ⟨rfl, (Process.step_error h (run_send_null text current)).2⟩
  | some dc =>
      refine .inl ⟨rfl, ?_⟩
      rw [(Process.step_ok h (run_send text current)).2]
      show (if text = utf8 "exit" then Phase.quitting else .main) ≠ _
      split <;> simp

theorem Pointers.hdl_of_present (inv : Pointers p) {hdl : Hdl}
    (present : p.state.conns hdl = .open ∨ p.state.conns hdl = .closing) :
    p.state.wsHdl.isSome = true := by
  rw [Option.isSome_iff_ne_none]
  intro none
  obtain ⟨-, -, conns⟩ := inv.unset none
  rcases present with up | up
  · exact (conns hdl).1 up
  · exact (conns hdl).2 up

/-- A step that sets the handle and leaves both pointers alone. -/
theorem Pointers.of_hdl (inv : Pointers p) (alive : p.phase.alive = true)
    (before : p.state.wsHdl.isSome = true) (after : q.state.wsHdl.isSome = true)
    (pc : q.state.peerConnection = p.state.peerConnection)
    (dc : q.state.dataChannel = p.state.dataChannel) : Pointers q := by
  constructor
  · intro none
    simp [none] at after
  · intro _ _
    rw [pc, dc]
    exact inv.set alive before
  · intro _
    exact after

/-- A failed attempt sets nothing. -/
theorem Pointers.wsFail (inv : Pointers p) {hdl : Hdl} (alive : p.phase.alive = true)
    (state : q.state = { p.state with conns := Function.update p.state.conns hdl .closed })
    (quitting : q.phase = .quitting → p.state.wsHdl.isSome = true) : Pointers q := by
  constructor
  · rw [state]
    intro none
    obtain ⟨peers, dc, conns⟩ := inv.unset none
    refine ⟨peers, dc, fun other => ?_⟩
    by_cases same : other = hdl
    · subst same; simp
    · simpa [same] using conns other
  · rw [state]
    intro _
    exact inv.set alive
  · rw [state]
    exact quitting

/-- A channel of the peer replaces the client's own; there is a peer connection,
so `OpenHandler` has run. -/
theorem Pointers.dataChannel (inv : Pointers p) {pc : PcId}
    (h : Process.step (manager L W) p (.callback (.dataChannel pc)) = some q) : Pointers q := by
  have state := Process.state_of_step h
  have below : pc < p.state.peers := of_decide_eq_true (Process.callback_enabled h)
  have set : p.state.wsHdl.isSome = true := by
    rw [Option.isSome_iff_ne_none]
    intro none
    rw [(inv.unset none).1] at below
    exact Nat.not_lt_zero _ below
  have after : q.state.wsHdl.isSome = true := by rw [state]; exact set
  constructor
  · intro none
    simp [none] at after
  · intro _ _
    constructor
    · rw [state]
      exact (inv.set (Process.alive_of_step h) set).1
    · rw [state]; rfl
  · intro _
    exact after

/-- `quit` ends the process. -/
theorem Pointers.quit (inv : Pointers p)
    (h : Process.step (manager L W) p .quit = some q) : Pointers q := by
  have enabled := (Process.step_eq_some h).1
  simp only [Event.enabled, decide_eq_true_eq] at enabled
  have set := inv.quitting enabled
  obtain ⟨pc, current⟩ := Option.isSome_iff_exists.mp (inv.set (Process.alive_of_step h) set).1
  obtain ⟨state, phase⟩ := Process.step_ok h (run_quit current)
  have after : q.state.wsHdl.isSome = true := by rw [state]; exact set
  constructor
  · intro none
    simp [none] at after
  · intro live
    rw [phase] at live
    cases live
  · intro _
    exact after

/-- **The invariant survives every step of the client.** -/
theorem Pointers.step (inv : Pointers p) (h : Process.step (manager L W) p ev = some q) :
    Pointers q := by
  have alive := Process.alive_of_step h
  have state := Process.state_of_step h
  have enabled := (Process.step_eq_some h).1
  have came : q.phase = .quitting → ev.next (manager L W) p.phase = .quitting := by
    intro quitting
    rcases Process.phase_of_step h with phase | ⟨why, phase⟩
    · rw [← phase, quitting]
    · rw [quitting] at phase; cases phase
  cases ev with
  | wsOpen hdl =>
      rcases openHandler_cases hdl h with ⟨-, -, -, set, pc, dc⟩ | ⟨-, phase, set⟩
      · exact ⟨fun none => by simp [none] at set, fun _ _ => ⟨pc, dc⟩, fun _ => set⟩
      · exact ⟨fun none => by simp [none] at set, fun live => by simp [phase, Phase.alive] at live,
          fun _ => set⟩
  | wsFail hdl => exact inv.wsFail alive state fun quitting => inv.quitting (came quitting)
  | wsClose hdl =>
      simp only [Event.enabled, decide_eq_true_eq] at enabled
      exact inv.of_hdl alive (inv.hdl_of_present enabled.2) (by rw [state]; rfl)
        (by rw [state]; rfl) (by rw [state]; rfl)
  | wsClosing hdl =>
      simp only [Event.enabled, decide_eq_true_eq] at enabled
      have set := inv.hdl_of_present (.inl enabled.2)
      exact inv.of_hdl alive set (by rw [state]; exact set) (by rw [state]; rfl)
        (by rw [state]; rfl)
  | wsGone hdl =>
      exact inv.of_same alive (by rw [state]; rfl) fun quitting => inv.quitting (came quitting)
  | wsMessage hdl payload =>
      simp only [Event.enabled, decide_eq_true_eq] at enabled
      have pointers : q.state.pointers = ({ p.state with wsHdl := some hdl } : Endpoint).pointers :=
        state ▸ pointers_messageHandler hdl payload p.state
      simp only [Endpoint.pointers, Prod.mk.injEq] at pointers
      exact inv.of_hdl alive (inv.hdl_of_present enabled.2) (by rw [pointers.1]; rfl) pointers.2.1
        pointers.2.2.1
  | callback c =>
      by_cases channel : ∃ pc, c = .dataChannel pc
      · obtain ⟨pc, rfl⟩ := channel
        exact inv.dataChannel h
      · obtain ⟨kept, entered⟩ := keeps_callback (L := L) p.state
          fun pc eq => channel ⟨pc, eq⟩
        refine inv.of_same alive ?_ fun quitting => inv.quitting (came quitting)
        rw [state]
        exact (kept _).trans entered
  | runReturned =>
      refine inv.of_same alive (by rw [state]; rfl) fun quitting => ?_
      cases came quitting
  | line text =>
      refine inv.of_same alive (by rw [state]; exact keeps_send_of_ignores (fun _ _ => rfl) text _)
        fun quitting => ?_
      rw [Option.isSome_iff_ne_none]
      intro none
      obtain ⟨-, dc, -⟩ := inv.unset none
      rcases line_cases h with ⟨some, -⟩ | ⟨-, aborted⟩
      · simp [dc] at some
      · rw [quitting] at aborted; cases aborted
  | eof =>
      refine inv.of_same alive (by rw [state]; rfl) fun quitting => ?_
      cases came quitting
  | quit => exact inv.quit h

theorem pointers_initial : Pointers Process.initial :=
  ⟨fun _ => ⟨rfl, rfl, fun _ => ⟨nofun, nofun⟩⟩, nofun, nofun⟩

end Client

/-! ### When the client finds its pointers -/

/-- The uses of the pointers by `create_offer_sdp`, by `main`'s `send` and by
`quit` find them set. -/
def PointersFound (_ : Process) (ev : Event) (q : Process) : Prop :=
  match ev with
  | .wsOpen _ | .line _ | .quit => q.phase ≠ .aborted .nullDereference
  | _ => True

/-- When the connection opens, libwebrtc creates both objects; when `main` reads
a line, `OpenHandler` has run. -/
def PointersReady (W : WebRtc) (p : Process) (ev : Event) (_ : Process) : Prop :=
  match ev with
  | .wsOpen _ =>
      W.createPeerConnection p.state.peers = true ∧ W.createDataChannel p.state.channels = true
  | .line _ => p.state.wsHdl.isSome = true
  | _ => True

theorem Client.Pointers.found_iff {L : JsonLibs} {W : WebRtc} {p q : Process} {ev : Event}
    (inv : Client.Pointers p) (h : Process.step (Client.manager L W) p ev = some q) :
    PointersFound p ev q ↔ PointersReady W p ev q := by
  have alive := Process.alive_of_step h
  cases ev with
  | wsOpen hdl =>
      rcases Client.openHandler_cases hdl h with ⟨pc, dc, phase, -⟩ | ⟨null, phase, -⟩
      · have running : p.phase = .running := by
          have enabled := (Process.step_eq_some h).1
          simp only [Event.enabled, decide_eq_true_eq] at enabled
          exact enabled.1
        simp [PointersFound, PointersReady, pc, dc, phase, running]
      · refine iff_of_false (fun found => found phase) fun ready => ?_
        rcases null with none | none
        · exact Bool.false_ne_true (none.symm.trans ready.1)
        · exact Bool.false_ne_true (none.symm.trans ready.2)
  | line text =>
      rcases Client.line_cases h with ⟨some, phase⟩ | ⟨none, phase⟩
      · refine iff_of_true phase ?_
        show p.state.wsHdl.isSome = true
        rw [Option.isSome_iff_ne_none]
        intro unset
        simp [(inv.unset unset).2.1] at some
      · refine iff_of_false (fun found => found phase) fun ready => ?_
        have set := (inv.set alive ready).2
        simp [none] at set
  | quit =>
      have enabled := (Process.step_eq_some h).1
      simp only [Event.enabled, decide_eq_true_eq] at enabled
      obtain ⟨pc, current⟩ :=
        Option.isSome_iff_exists.mp (inv.set alive (inv.quitting enabled)).1
      have phase := (Process.step_ok h (run_quit current)).2
      exact iff_of_true (by simp [PointersFound, phase, Event.next]) trivial
  | _ => exact Iff.rfl

/-- **When the client finds its pointers.** Along every run of the client, with
any outcome of the connection attempt and any lines, `create_offer_sdp`, `send`
and `quit` find the pointers they use exactly if libwebrtc created both objects
when the connection opened, and no line is read in a run whose connection never
opened. -/
theorem no_null_dereference_iff (L : JsonLibs) (W : WebRtc) (es : List Event) :
    (Process.machine (Client.manager L W)).EachStep PointersFound Process.initial es ↔
      (Process.machine (Client.manager L W)).EachStep (PointersReady W) Process.initial es :=
  Automaton.EachStep.congr (I := Client.Pointers) (fun _ _ _ inv h => inv.step h)
    (fun _ _ _ inv h => inv.found_iff h) Client.pointers_initial

/-- The connection is refused, `run()` returns and the user types a line. -/
theorem refused_then_line :
    ¬ (Process.machine (Client.manager .reference .reference)).EachStep PointersFound
      Process.initial [.wsFail 0, .runReturned, .line (utf8 "hello")] := by
  intro each
  have checked : ((Process.machine (Client.manager .reference .reference)).run
      [.wsFail 0, .runReturned]).any (fun p =>
        ((Process.machine (Client.manager .reference .reference)).step p
          (.line (utf8 "hello"))).any (fun q =>
            q.phase = .aborted .nullDereference)) = true := by
    decide +kernel
  obtain ⟨p, run, rest⟩ := (Option.any_eq_true _ _).mp checked
  obtain ⟨q, step, phase⟩ := (Option.any_eq_true _ _).mp rest
  have last : (Process.machine (Client.manager .reference .reference)).EachStep PointersFound
      Process.initial ([.wsFail 0, .runReturned] ++ [.line (utf8 "hello")]) := each
  exact last.last run step (of_decide_eq_true phase)

end WebrtcSample
