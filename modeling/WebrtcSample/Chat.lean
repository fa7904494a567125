import WebrtcSample.Client
import WebrtcSample.Lib.Channel

/-!
The client's lines on their way to the server.

`send` does not look at what `Send` returns, and `quit` closes the peer
connection right after the last `Send`. A line is lost without a word when the
channel does not take it, or when it still waits in the channel's buffer as the
peer connection goes. `no_silent_loss_iff` says that these are the only ways.

The channel is the one `create_offer_sdp` made; the server opens none. It is the
channel that `DataChannelInterface` documents: a message waits in a buffer of 16 MB
while the channel is congested, a message that finds the buffer full closes the
channel, and what is buffered goes with the peer connection. The library that is
shipped does more than is written there: it also drops an empty message and one that
is too long for the other side, and at `Close` what SCTP has taken and not yet sent.
-/

namespace WebrtcSample

open Prog Effect WebRtcManager

/-- The client and its data channel. -/
structure Chat where
  client : Process
  channel : Channel Bytes

namespace Chat

def initial : Chat := ⟨.initial, .empty⟩

/-- The buffer of a data channel. -/
def capacity : Nat := 16 * 1024 * 1024

inductive Step where
  /-- An event at the client; `congested` is the channel's state at the time. -/
  | client (ev : Event) (congested : Bool)
  | flush
  | deliver

/-- The client's data channel has opened. -/
def opened (e : Endpoint) : Bool := e.dataChannel.any fun dc => e.channelState dc ≠ .connecting

/-- The client's data channel is open. -/
def isOpen (e : Endpoint) : Bool := e.dataChannel.any fun dc => e.channelState dc = .open

/-- The events considered: lines are typed after the channel opened, and the
server opens no channel. -/
def admits (e : Endpoint) : Event → Bool
  | .line _ => opened e
  | .callback (.dataChannel _) => false
  | _ => true

/-- What an event at the client does to the channel: a line is sent, and the
channel goes with the peer connection or the process. -/
def follow (p q : Process) (ev : Event) (congested : Bool) (c : Channel Bytes) : Channel Bytes :=
  match ev with
  | .line text => c.send List.length capacity (isOpen p.state) congested text
  | _ => if q.phase.alive then c else c.close

variable (L : JsonLibs) (W : WebRtc)

def step (s : Chat) : Step → Option Chat
  | .client ev congested =>
      if admits s.client.state ev then
        (Process.step (Client.manager L W) s.client ev).map fun q =>
          ⟨q, follow s.client q ev congested s.channel⟩
      else none
  | .flush => s.channel.flush.map fun c => ⟨s.client, c⟩
  | .deliver => s.channel.deliver.map fun c => ⟨s.client, c⟩

def machine : Automaton Chat Step := ⟨initial, step L W⟩

/-- What `main` has passed to `send`. -/
def passed (s : Chat) : List Bytes := (channelSends s.client).map Prod.snd

/-- Nothing is lost: what `main` passed to `send` has been delivered, or is in
transit, or is buffered, in that order. -/
def NoSilentLoss (s : Chat) : Prop :=
  s.passed = s.channel.delivered ++ s.channel.inTransit ++ s.channel.buffered

/-- A line is read while the channel is open and can go at once or be buffered;
and the buffer is empty when the peer connection is closed or the process ends. -/
def Safe (s : Chat) (a : Step) (t : Chat) : Prop :=
  match a with
  | .client (.line text) congested =>
      s.channel.Takes List.length capacity (isOpen s.client.state) congested text
  | .client _ _ => t.client.phase.alive = false → s.channel.buffered = []
  | _ => True

end Chat

/-! ### What the client sends -/

namespace Client

variable {L : JsonLibs} {W : WebRtc} {p q : Process} {ev : Event}

/-- What has been given to `Send`. -/
def sent (e : Endpoint) : List (DcId × Bytes) := e.calls.filterMap Call.sent?

theorem sent_log (e : Endpoint) (c : Call) (plain : c.isPlain = true) :
    sent (e.log c) = sent e := by
  have none : c.sent? = none := by
    cases c <;> first | rfl | cases plain
  simp [sent, Endpoint.log, none]

/-- `create_offer_sdp` sends nothing on the channel it makes. -/
theorem keeps_createOfferSdp : Keeps sent (createOfferSdp W) := by
  intro e
  cases pc : W.createPeerConnection e.peers with
  | false =>
      rw [run_createOfferSdp_noPeer pc]
      simp [sent, Call.sent?]
  | true =>
      cases dc : W.createDataChannel e.channels with
      | false =>
          rw [run_createOfferSdp_noChannel pc dc]
          simp [sent, List.filterMap_cons, Call.sent?]
      | true =>
          rw [run_createOfferSdp pc dc]
          simp [sent, List.filterMap_cons, offerCalls, Call.sent?]

/-- Only a line is sent on the data channel. -/
theorem channelSends_of_step (other : ∀ text, ev ≠ .line text)
    (h : Process.step (manager L W) p ev = some q) : channelSends q = channelSends p := by
  show sent q.state = sent p.state
  rw [Process.state_of_step h]
  cases ev with
  | line text => exact absurd rfl (other text)
  | wsOpen hdl => exact keeps_createOfferSdp _
  | wsMessage hdl payload => exact final_messageHandler_of_ignores sent_log hdl payload p.state
  | callback c =>
      cases c with
      | sdpCreated pc desc =>
          exact keeps_onSuccessCsd_of_ignores sent_log (fun _ _ => rfl)
            (keeps_wsSend_of_ignores sent_log (fun _ _ => rfl) _) _
      | iceCandidate pc candidate =>
          exact keeps_reportIce_of_ignores sent_log (fun _ _ => rfl) (fun _ _ => rfl) _ _
      | dataChannel pc => exact sent_log _ _ rfl
      | stateChange dc st =>
          have told : ∀ e, sent (Endpoint.log e .onSuccess) = sent e := fun e => by
            simp [sent, Endpoint.log, Call.sent?]
          exact keeps_onStateChange_of_ignores told (keeps_pure ()) _
      | _ => rfl
  | quit => exact keeps_quit_of_ignores sent_log (fun _ => rfl) _
  | _ => rfl

/-- A line is sent on the client's channel, and the client goes on. -/
theorem channelSends_line {text : Bytes} {dc : DcId} (current : p.state.dataChannel = some dc)
    (h : Process.step (manager L W) p (.line text) = some q) :
    channelSends q = channelSends p ++ [(dc, text)] ∧ q.phase.alive = true := by
  obtain ⟨state, phase⟩ := Process.step_ok h (run_send text current)
  constructor
  · rw [channelSends, state]
    simp [channelSends, Event.enter, Endpoint.log, Call.sent?]
  · rw [phase]
    show (if text = utf8 "exit" then Phase.quitting else .main).alive = true
    split <;> rfl

end Client

/-! ### When nothing is lost -/

namespace Chat

variable {L : JsonLibs} {W : WebRtc} {s t : Chat} {a : Step}

theorem step_client {ev : Event} {congested : Bool}
    (h : step L W s (.client ev congested) = some t) :
    admits s.client.state ev = true ∧
      ∃ q, Process.step (Client.manager L W) s.client ev = some q ∧
        t = ⟨q, follow s.client q ev congested s.channel⟩ := by
  rw [step] at h
  split at h
  · rename_i admitted
    obtain ⟨q, moved, eq⟩ := Option.map_eq_some_iff.mp h
    exact ⟨admitted, q, moved, eq.symm⟩
  · cases h

theorem noSilentLoss_line_iff {text : Bytes} {congested : Bool} (held : NoSilentLoss s)
    (h : step L W s (.client (.line text) congested) = some t) :
    NoSilentLoss t ↔ Safe s (.client (.line text) congested) t := by
  obtain ⟨admitted, q, moved, rfl⟩ := step_client h
  obtain ⟨dc, current, -⟩ := (Option.any_eq_true _ _).mp admitted
  have sends := (Client.channelSends_line current moved).1
  have more : (⟨q, follow s.client q (.line text) congested s.channel⟩ : Chat).passed =
      s.channel.accepted ++ [text] := by
    simp only [passed, sends, List.map_append, List.map_cons, List.map_nil]
    rw [← show s.passed = s.channel.accepted from held]
    rfl
  rw [NoSilentLoss, more, eq_comm]
  exact Channel.accepted_send_eq_iff _ _ _ _ _ _

theorem noSilentLoss_other_iff {ev : Event} {congested : Bool} (other : ∀ text, ev ≠ .line text)
    (held : NoSilentLoss s) (h : step L W s (.client ev congested) = some t) :
    NoSilentLoss t ↔ (t.client.phase.alive = false → s.channel.buffered = []) := by
  obtain ⟨-, q, moved, rfl⟩ := step_client h
  have same := Client.channelSends_of_step other moved
  have channel : follow s.client q ev congested s.channel =
      if q.phase.alive then s.channel else s.channel.close := by
    cases ev with
    | line text => exact absurd rfl (other text)
    | _ => rfl
  have passed_eq : (⟨q, follow s.client q ev congested s.channel⟩ : Chat).passed =
      s.channel.accepted := by
    rw [← show s.passed = s.channel.accepted from held]
    simp only [passed, same]
  rw [NoSilentLoss, passed_eq, eq_comm]
  show (follow s.client q ev congested s.channel).accepted = _ ↔ _
  rw [channel]
  cases alive : q.phase.alive with
  | true => simp
  | false => simpa using s.channel.accepted_close_eq_iff

/-- One step loses nothing exactly if it is safe. -/
theorem noSilentLoss_iff (held : NoSilentLoss s) (h : step L W s a = some t) :
    NoSilentLoss t ↔ Safe s a t := by
  cases a with
  | client ev congested =>
      cases ev with
      | line text => exact noSilentLoss_line_iff held h
      | _ => exact noSilentLoss_other_iff (by simp) held h
  | flush =>
      obtain ⟨c, moved, rfl⟩ := Option.map_eq_some_iff.mp h
      refine iff_of_true ?_ trivial
      exact (show s.passed = s.channel.accepted from held).trans (Channel.accepted_flush moved).symm
  | deliver =>
      obtain ⟨c, moved, rfl⟩ := Option.map_eq_some_iff.mp h
      refine iff_of_true ?_ trivial
      exact (show s.passed = s.channel.accepted from held).trans
        (Channel.accepted_deliver moved).symm

end Chat

/-- **When no line is lost.** Along every run of the client and its channel, in
every state reached nothing that `main` passed to `send` is lost, exactly if every
step is safe. -/
theorem no_silent_loss_iff (L : JsonLibs) (W : WebRtc) (steps : List Chat.Step) :
    (Chat.machine L W).EachStep (fun _ _ t => t.NoSilentLoss) Chat.initial steps ↔
      (Chat.machine L W).EachStep Chat.Safe Chat.initial steps :=
  Automaton.EachStep.kept_iff (fun _ _ _ held h => Chat.noSilentLoss_iff held h) rfl

/-- The channel opens, the connection is closed, and the user types `hi` and
`exit` while the channel is congested. -/
def Chat.congestedExit : List Chat.Step :=
  [.client (.wsOpen 0) false, .client (.callback (.sdpCreated 0 ⟨.offer, "v=0"⟩)) false,
    .client (.wsMessage 0 (answerMessage .reference (utf8 "v=0"))) false,
    .client (.callback (.stateChange 0 .open)) false, .client (.wsClose 0) false,
    .client .runReturned false, .client (.line (utf8 "hi")) true,
    .client (.line (utf8 "exit")) true]

/-- Both lines go with the peer connection. -/
theorem lost_on_quit :
    ¬ (Chat.machine .reference .reference).EachStep (fun _ _ t => t.NoSilentLoss) Chat.initial
        (Chat.congestedExit ++ [.client .quit false]) ∧
      ∃ t, (Chat.machine .reference .reference).run
          (Chat.congestedExit ++ [.client .quit false]) = some t ∧
        t.passed = [utf8 "hi", utf8 "exit"] ∧ t.channel.accepted = [] := by
  have checked : ((Chat.machine .reference .reference).run Chat.congestedExit).any (fun s =>
      ((Chat.machine .reference .reference).step s (.client .quit false)).any fun t =>
        t.passed = [utf8 "hi", utf8 "exit"] ∧ t.channel.accepted = []) = true := by
    decide +kernel
  obtain ⟨s, t, run, step, facts⟩ := Automaton.exists_of_lastStep checked
  obtain ⟨passed, nothing⟩ := of_decide_eq_true facts
  constructor
  · intro each
    have held : t.passed = t.channel.accepted := each.last run step
    rw [passed, nothing] at held
    cases held
  · exact ⟨t, Automaton.run_concat run step, passed, nothing⟩

end WebrtcSample
