import WebrtcSample.Isolation

/-!
How long the server's pointers last.

Every use of `peer_connection` and `data_channel` on the server is unguarded.
What makes the uses safe is who can make them: an observer is called for an
object that was created and registered with, the object's creation has set the
pointer, and only `quit` takes it away again. `main` gets to `quit` when `run()`
returns, which takes a `stop_listening`, hence a message on a channel, hence a
peer connection (`server_lifetime`).
-/

namespace WebrtcSample

open Prog Effect WebRtcManager

/-- What the server's end depends on. -/
def Endpoint.serving (e : Endpoint) := (e.listening, e.dataChannel, e.observed)

namespace Server

variable {L : JsonLibs} {W : WebRtc} {p q : Process} {ev : Event} {es : List Event}

/-! ### Steps -/

theorem serving_log (e : Endpoint) (c : Call) : (e.log c).serving = e.serving := rfl

theorem serving_unsignaled : Unsignaled Endpoint.serving where
  log := fun e c _ => serving_log e c
  wsHdl := fun _ _ => rfl
  conns := fun _ _ => rfl
  gone := fun _ _ => rfl
  outbox := fun _ _ => rfl
  iceList := fun _ _ => rfl
  peers := fun _ _ _ => rfl
  requests := fun _ _ => rfl
  described := fun _ _ => rfl

theorem serving_message {dc : DcId} {data : Bytes}
    (h : Process.step (manager L W) p (.callback (.message dc data)) = some q) :
    q.state.serving =
      (p.state.listening && data ≠ utf8 "exit", p.state.dataChannel, p.state.observed) := by
  have state : q.state = final ((onMessage data).run p.state) := Process.state_of_step h
  by_cases exit : data = utf8 "exit"
  · rw [state, exit, run_onMessage_exit, run_stopListening]
    cases on : p.state.listening <;> simp [Endpoint.serving, Endpoint.log, on]
  · rw [state, run_onMessage_echo exit]
    refine (keeps_send_of_ignores serving_log _ p.state).trans ?_
    simp [Endpoint.serving, exit]

/-- Only a new channel and the message `exit` change it before `quit`. -/
theorem serving_of_step (noQuit : ev ≠ .quit) (h : Process.step (manager L W) p ev = some q) :
    q.state.serving =
      match ev with
      | .callback (.dataChannel _) =>
          (p.state.listening, some p.state.channels, p.state.observed ++ [p.state.channels])
      | .callback (.message _ data) =>
          (p.state.listening && data ≠ utf8 "exit", p.state.dataChannel, p.state.observed)
      | _ => p.state.serving := by
  have state := Process.state_of_step h
  cases ev with
  | callback c =>
      cases c with
      | stateChange dc st =>
          rw [state]
          exact keeps_onStateChange_of_ignores (fun e => serving_log e _)
            (keeps_onSuccess_of_ignores (fun e _ => serving_log e _) (fun e _ => serving_log e _)
              fun _ _ => rfl) _
      | message dc data => exact serving_message h
      | dataChannel pc => rw [state]; rfl
      | _ => exact serving_unsignaled.step rfl h
  | line text =>
      rw [state]
      exact keeps_send_of_ignores serving_log text p.state
  | quit => exact absurd rfl noQuit
  | _ => exact serving_unsignaled.step rfl h

/-- Only the message `exit` stops the server listening. -/
theorem listening_of_step (h : Process.step (manager L W) p ev = some q) :
    q.state.listening = p.state.listening ∨
      (∃ dc, ev = .callback (.message dc (utf8 "exit"))) ∧ q.state.listening = false := by
  by_cases quit : ev = .quit
  · rw [Process.state_of_step h, quit]
    exact .inl (keeps_quit_of_ignores (f := Endpoint.listening) (fun _ _ _ => rfl) (fun _ => rfl) _)
  have listening : q.state.listening = q.state.serving.1 := rfl
  rw [listening, serving_of_step quit h]
  split
  · exact .inl rfl
  · rename_i dc data _ _
    by_cases exit : data = utf8 "exit"
    · exact .inr ⟨⟨dc, by rw [exit]⟩, by simp [exit]⟩
    · exact .inl (by simp [exit])
  · exact .inl rfl

/-- An observer is registered on a channel the pointer has just been set to. -/
theorem dataChannel_of_step (noQuit : ev ≠ .quit) (h : Process.step (manager L W) p ev = some q)
    (set : p.state.observed ≠ [] → p.state.dataChannel.isSome = true)
    (some : q.state.observed ≠ []) : q.state.dataChannel.isSome = true := by
  have observed : q.state.observed = q.state.serving.2.2 := rfl
  have pointer : q.state.dataChannel = q.state.serving.2.1 := rfl
  rw [observed, serving_of_step noQuit h] at some
  rw [pointer, serving_of_step noQuit h]
  split at some
  · rfl
  · exact set some
  · exact set some

/-- A step other than `quit` leaves the pointer set, or the factory returned null
and the process is over. -/
theorem peerConnection_of_step (noQuit : ev ≠ .quit) (set : p.state.peerConnection.isSome = true)
    (h : Process.step (manager L W) p ev = some q) :
    q.state.peerConnection.isSome = true ∨ q.NoPeer := by
  have pointer : q.state.peerConnection = q.state.objects.peerConnection := rfl
  by_cases message : ∃ hdl payload, ev = .wsMessage hdl payload
  · obtain ⟨hdl, payload, rfl⟩ := message
    rcases objects_message h with same | ⟨-, objects⟩ | ⟨-, pc, peers, -, -, objects, null⟩
    · rw [pointer, same]
      exact .inl set
    · rw [pointer, objects]
      exact .inl rfl
    · rw [pointer, objects]
      cases pc with
      | none => exact .inr (null rfl)
      | some pc => exact .inl rfl
  · by_cases callback : ∃ c, ev = .callback c
    · obtain ⟨c, rfl⟩ := callback
      rw [pointer, objects_callback h]
      cases c <;> exact .inl set
    · push Not at message callback
      obtain ⟨pc, objects, kept⟩ := objects_other message callback h
      rw [pointer, objects, kept noQuit]
      exact .inl set

/-- `main` has no loop over lines: it is in `run()` until it gets to `quit`, and
it gets there when `run()` returns. -/
theorem phase_of_serving (noLines : p.phase ≠ .main)
    (h : Process.step (manager L W) p ev = some q) :
    q.phase ≠ .main ∧
      (q.phase = .quitting → p.phase = .quitting ∨ p.state.listening = false) := by
  have enabled := (Process.step_eq_some h).1
  rcases Process.phase_of_step h with phase | ⟨why, phase⟩
  · rw [phase]
    cases ev <;> simp only [Event.enabled, decide_eq_true_eq] at enabled
    case line text => exact absurd enabled noLines
    case eof => exact absurd enabled noLines
    case quit => exact ⟨by simp [Event.next], by simp [Event.next]⟩
    case runReturned =>
      have stopped : (!p.state.listening) = true := enabled.2
      exact ⟨by simp [Event.next, manager], fun _ => .inr (by simpa using stopped)⟩
    all_goals exact ⟨noLines, fun quitting => .inl quitting⟩
  · rw [phase]
    exact ⟨by simp, by simp⟩

/-! ### Runs -/

/-- The server after the events `es`: it has stopped listening because of an
`exit` on a channel, and a channel with an observer is one the pointer was set
to. -/
structure Serving (es : List Event) (p : Process) : Prop where
  holds : Holds p
  noLines : p.phase ≠ .main
  quitting : p.phase = .quitting → p.state.listening = false
  stopped : p.state.listening = false →
    (∃ dc, .callback (.message dc (utf8 "exit")) ∈ es) ∧ 0 < p.state.peers
  observed : p.phase.alive = true → p.state.observed ≠ [] → p.state.dataChannel.isSome = true

theorem serving_initial : Serving [] Process.initial where
  holds := holds_initial
  noLines := by decide
  quitting := by decide
  stopped := fun off => by cases off
  observed := fun _ some => absurd rfl some

theorem Serving.step (inv : Serving es p) (h : Process.step (manager L W) p ev = some q) :
    Serving (es ++ [ev]) q := by
  obtain ⟨noLines, quitting⟩ := phase_of_serving inv.noLines h
  have listening := listening_of_step h
  have grown : p.state.peers ≤ q.state.peers := by
    rcases peers_of_step h with same | ⟨more, -⟩ <;> omega
  refine ⟨inv.holds.step h, noLines, fun here => ?_, fun stopped => ?_, fun alive some => ?_⟩
  · have stopped : p.state.listening = false := (quitting here).elim inv.quitting id
    rcases listening with same | ⟨-, off⟩
    · exact same.trans stopped
    · exact off
  · rcases listening with same | ⟨⟨dc, rfl⟩, -⟩
    · obtain ⟨⟨dc, mem⟩, some⟩ := inv.stopped (same ▸ stopped)
      exact ⟨⟨dc, List.mem_append_left _ mem⟩, some.trans_le grown⟩
    · have owner := inv.holds.owned.peer_lt (Process.callback_enabled h)
      exact ⟨⟨dc, by simp⟩, (Nat.zero_lt_of_lt owner).trans_le grown⟩
  · exact dataChannel_of_step (Process.ne_quit_of_alive h alive) h
      (inv.observed (Process.alive_of_step h)) some

theorem serving_of_run (run : (Process.machine (manager L W)).run es = some p) : Serving es p :=
  Automaton.run_history (I := Serving) serving_initial (fun _ _ _ _ inv h => inv.step h) run

/-- From a state with the pointer set, a run without `quit` comes to one with the
pointer set. -/
theorem peerConnection_of_runFrom {mid : Process} (set : mid.state.peerConnection.isSome = true)
    (run : (Process.machine (manager L W)).runFrom mid es = some p) (noQuit : .quit ∉ es) :
    p.state.peerConnection.isSome = true ∨ p.NoPeer := by
  have others : ∀ ev ∈ es, ev ≠ .quit := by
    rintro ev mem rfl
    exact noQuit mem
  refine Automaton.EachStep.invariant (C := fun _ ev _ => ev ≠ .quit)
    (I := fun p => p.state.peerConnection.isSome = true ∨ p.NoPeer) ?_ (.inl set)
    (.of_forall others) run
  intro s ev t inv h other
  rcases inv with set | ⟨ended, -⟩
  · exact peerConnection_of_step other set h
  · have alive := Process.alive_of_step h
    rw [ended] at alive
    cases alive

theorem Serving.peerConnection (inv : Serving es p) (alive : p.phase.alive = true)
    (some : 0 < p.state.peers) : p.state.peerConnection.isSome = true := by
  obtain ⟨cur, -, current⟩ := (inv.holds.latest alive).current some
  have set : p.state.peerConnection = .some cur := current
  rw [set]
  rfl

end Server

/-- How the server's pointers have fared in the run `es` that has come to `p`. -/
structure Lifetime (A : Automaton Process Event) (es : List Event) (p : Process) : Prop where
  /-- Once set, `peer_connection` stays set until `quit`, unless the factory
  returned null and the process is over. -/
  stays : ∀ before after mid, es = before ++ after → A.run before = some mid →
    mid.state.peerConnection.isSome = true → .quit ∉ after →
    p.state.peerConnection.isSome = true ∨ p.NoPeer
  /-- `on_success_csd` finds it set. -/
  onSuccessCsd : ∀ pc desc q, A.step p (.callback (.sdpCreated pc desc)) = some q →
    p.state.peerConnection.isSome = true
  /-- `on_state_change` finds `data_channel` set. -/
  onStateChange : ∀ dc st q, A.step p (.callback (.stateChange dc st)) = some q →
    p.state.dataChannel.isSome = true
  /-- So does `on_message`. -/
  onMessage : ∀ dc data q, A.step p (.callback (.message dc data)) = some q →
    p.state.dataChannel.isSome = true
  /-- `main` gets to `quit` after an `exit` on some channel, with
  `peer_connection` set. -/
  quit : p.phase = .quitting →
    (∃ dc, .callback (.message dc (utf8 "exit")) ∈ es) ∧ p.state.peerConnection.isSome = true

/-- **The lifetime of the server's pointers**, for any number of clients and any
order of handlers and callbacks. -/
theorem server_lifetime {L : JsonLibs} {W : WebRtc} {es : List Event} {p : Process}
    (run : (Process.machine (Server.manager L W)).run es = some p) :
    Lifetime (Process.machine (Server.manager L W)) es p := by
  have inv := Server.serving_of_run run
  have registered : ∀ {dc}, dc ∈ p.state.observed → p.state.observed ≠ [] :=
    fun mem => List.ne_nil_of_mem mem
  constructor
  · rintro before after mid rfl start set noQuit
    have rest : (Process.machine (Server.manager L W)).runFrom mid after = some p := by
      rw [Automaton.run, Automaton.runFrom_append] at run
      rw [Automaton.run] at start
      rwa [start, Option.bind_some] at run
    exact Server.peerConnection_of_runFrom set rest noQuit
  · intro pc desc q h
    have owner := inv.holds.owned.peer_lt (Process.callback_enabled h)
    exact inv.peerConnection (Process.alive_of_step h) (Nat.zero_lt_of_lt owner)
  · intro dc st q h
    have enabled := Process.callback_enabled h
    simp only [Callback.enabled, decide_eq_true_eq] at enabled
    exact inv.observed (Process.alive_of_step h) (registered enabled.1)
  · intro dc data q h
    have enabled := Process.callback_enabled h
    simp only [Callback.enabled, decide_eq_true_eq] at enabled
    exact inv.observed (Process.alive_of_step h) (registered enabled)
  · intro quitting
    obtain ⟨exit, some⟩ := inv.stopped (inv.quitting quitting)
    refine ⟨exit, inv.peerConnection ?_ some⟩
    rw [quitting]
    rfl

/-- A client sends `exit` over its channel, and `run()` returns. -/
def Server.oneExit : List Event :=
  Server.oneChannel ++ [.callback (.message 0 (utf8 "exit")), .runReturned]

/-- The server then gets to `quit`. -/
theorem server_lifetime_exit :
    ∃ p, (Process.machine (Server.manager .reference .reference)).run Server.oneExit = some p ∧
      p.phase = .quitting ∧
      Lifetime (Process.machine (Server.manager .reference .reference)) Server.oneExit p := by
  have checked : ((Process.machine (Server.manager .reference .reference)).run
      Server.oneExit).any (fun p => p.phase = .quitting) = true := by
    decide +kernel
  obtain ⟨p, run, phase⟩ := (Option.any_eq_true _ _).mp checked
  exact ⟨p, run, of_decide_eq_true phase, server_lifetime run⟩

end WebrtcSample
