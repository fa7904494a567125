import WebrtcSample.Session
import WebrtcSample.Channels
import WebrtcSample.Chat
import WebrtcSample.Lifetime

/-!
The echo protocol.

One client and the server, with the lines the user types at the client and the
data channel between the two. The client makes one channel and the server none,
so on both sides the channel is number 0, the server is told of it once and the
client of no other. A direction of the channel delivers what it took in order. It
may stop taking messages at any point, and then it takes none any more; and what
is on its way may be lost.

The client's loop hands over the lines up to the first `exit` (`Reads`), the
server answers message after message (`Answers`), and the contract of the two
links relates the ends: `echo_protocol`.
-/

namespace WebrtcSample

open Prog Effect WebRtcManager

/-! ### The system -/

/-- The lines up to and including the first `exit`. -/
def upToExit : List Bytes → List Bytes
  | [] => []
  | line :: rest => if line = utf8 "exit" then [line] else line :: upToExit rest

/-- What is left to read after an event; `none` if the event is no line of this
input and not its end. -/
def Event.read (stdin : List Bytes) : Event → Option (List Bytes)
  | .line text => if stdin.head? = some text then some stdin.tail else none
  | .eof => if stdin = [] then some [] else none
  | _ => some stdin

/-- The client, the server and what connects them. `up` and `down` are the two
directions of the data channel. -/
structure Echo where
  session : Session
  stdin : List Bytes
  up : Fifo Bytes
  down : Fifo Bytes

namespace Echo

inductive Move where
  /-- An action of the session that is not a message on the channel. -/
  | session (a : Action)
  /-- The next message on the channel reaches this side. -/
  | deliver (side : Side)
  /-- From now on every `Send` towards this side is refused. -/
  | refuse (side : Side)
  /-- The channel is gone: what is on its way to this side is lost. -/
  | lose (side : Side)

def initial (input : List Bytes) : Echo := ⟨.initial, input, .empty, .empty⟩

/-- The actions considered: the user types the input, and there is one channel. -/
def admits (s : Echo) : Action → Bool
  | .act _ (.callback (.message _ _)) => false
  | .act .client (.callback (.dataChannel _)) => false
  | .act .server (.callback (.dataChannel _)) => s.session.server.state.channels = 0
  | _ => true

/-- What the client reads in an action. -/
def read (stdin : List Bytes) : Action → Option (List Bytes)
  | .act .client ev => ev.read stdin
  | _ => some stdin

/-- What was given to `Send` on the channel. -/
def onChannel (sends : List (DcId × Bytes)) : List Bytes :=
  sends.filterMap fun sent => if sent.1 = 0 then some sent.2 else none

/-- The session has moved on; what was sent on the channel is on its way. -/
def follow (s : Echo) (t : Session) : Echo where
  session := t
  stdin := s.stdin
  up := s.up.pushAll (onChannel (newSends s.session.client t.client))
  down := s.down.pushAll (onChannel (newSends s.session.server t.server))

variable (L : JsonLibs) (Wc Ws : WebRtc)

def step (s : Echo) : Move → Option Echo
  | .session a =>
      if s.admits a then
        (read s.stdin a).bind fun rest =>
          (Session.step L Wc Ws s.session a).map fun t => follow { s with stdin := rest } t
      else none
  | .deliver .client =>
      s.down.pop.bind fun (data, rest) =>
        (Session.step L Wc Ws s.session (.act .client (.callback (.message 0 data)))).map fun t =>
          follow { s with down := rest } t
  | .deliver .server =>
      s.up.pop.bind fun (data, rest) =>
        (Session.step L Wc Ws s.session (.act .server (.callback (.message 0 data)))).map fun t =>
          follow { s with up := rest } t
  | .refuse .client => some { s with down := s.down.shut }
  | .refuse .server => some { s with up := s.up.shut }
  | .lose .client => some { s with down := s.down.cut }
  | .lose .server => some { s with up := s.up.cut }

/-- The system as an automaton, for a user who types these lines. -/
def machine (input : List Bytes) : Automaton Echo Move := ⟨initial input, step L Wc Ws⟩

/-- What the client has given to `Send`. -/
def handed (s : Echo) : List Bytes := (channelSends s.session.client).map Prod.snd

/-- How often the server has called `stop_listening`. -/
def stops (p : Process) : Nat := p.state.calls.count .stopListening

/-- What `on_message` of the server sends for a message. -/
def reply (message : Bytes) : Bytes := utf8 "Echo of: " ++ message

/-- The replies to messages, in order; `exit` gets none. -/
def replies (messages : List Bytes) : List Bytes :=
  (messages.filter fun message => message ≠ utf8 "exit").map reply

theorem count_upToExit (lines : List Bytes) : (upToExit lines).count (utf8 "exit") ≤ 1 := by
  induction lines with
  | nil => exact Nat.zero_le 1
  | cons line rest ih =>
      rw [upToExit]
      split
      · exact List.count_le_length
      · rename_i other
        rw [List.count_cons_of_ne other]
        exact ih

/-- On the one channel, what is sent arrives at the link. -/
theorem onChannel_zero (data : List Bytes) : onChannel (data.map fun m => (0, m)) = data := by
  simp [onChannel, List.filterMap_map]

theorem replies_concat (messages : List Bytes) (message : Bytes) :
    replies (messages ++ [message]) =
      replies messages ++ if message = utf8 "exit" then [] else [reply message] := by
  by_cases exit : message = utf8 "exit" <;> simp [replies, exit]

end Echo

/-! ### The client -/

/-- What the number of the client's channel depends on. -/
def Endpoint.numbering (e : Endpoint) := (e.dataChannel, e.channels, e.conns)

namespace Client

variable {L : JsonLibs} {W : WebRtc} {p q : Process} {ev : Event}

/-- The channel of the client is number 0: it is made when the connection opens,
and there is none before. -/
structure OneChannel (p : Process) : Prop where
  pointer : ∀ dc, p.state.dataChannel = some dc → dc = 0
  fresh : p.state.conns 0 = .absent → p.state.channels = 0

theorem OneChannel.of_same (inv : OneChannel p) (same : q.state.numbering = p.state.numbering) :
    OneChannel q := by
  simp only [Endpoint.numbering, Prod.mk.injEq] at same
  obtain ⟨pointer, channels, conns⟩ := same
  constructor
  · rw [pointer]
    exact inv.pointer
  · rw [channels, conns]
    exact inv.fresh

/-- A connection that moves on is not a new one. -/
theorem OneChannel.of_moved (inv : OneChannel p) {hdl : Hdl} {state : WsState}
    (present : state ≠ .absent)
    (conns : q.state.conns = Function.update p.state.conns hdl state)
    (pointer : q.state.dataChannel = p.state.dataChannel)
    (channels : q.state.channels = p.state.channels) : OneChannel q := by
  refine ⟨pointer ▸ inv.pointer, ?_⟩
  rw [conns, channels]
  by_cases own : hdl = 0
  · rw [own, Function.update_self]
    exact fun absent => absurd absent present
  · rw [Function.update_of_ne (Ne.symm own)]
    exact inv.fresh

theorem numbering_log (e : Endpoint) (c : Call) (_ : c.isPlain = true) :
    (e.log c).numbering = e.numbering := rfl

/-- `OpenHandler` runs once, so the channel it makes is the first. -/
theorem OneChannel.wsOpen (inv : OneChannel p) {hdl : Hdl}
    (h : Process.step (manager L W) p (.wsOpen hdl) = some q) : OneChannel q := by
  have enabled := (Process.step_eq_some h).1
  simp only [Event.enabled, manager, decide_eq_true_eq] at enabled
  obtain ⟨-, rfl, absent⟩ := enabled
  let e : Endpoint :=
    { p.state with conns := Function.update p.state.conns 0 .open, wsHdl := some 0 }
  have state : q.state = final ((createOfferSdp W).run e) := Process.state_of_step h
  have opened : e.conns 0 ≠ .absent := by simp [e]
  have first : e.channels = 0 := inv.fresh absent
  suffices made : q.state.conns = e.conns ∧ ∀ dc, q.state.dataChannel = some dc → dc = 0 by
    refine ⟨made.2, fun absent => ?_⟩
    rw [made.1] at absent
    exact absurd absent opened
  cases pc : W.createPeerConnection e.peers with
  | false =>
      rw [state, run_createOfferSdp_noPeer pc]
      exact ⟨rfl, inv.pointer⟩
  | true =>
      cases dc : W.createDataChannel e.channels with
      | false =>
          rw [state, run_createOfferSdp_noChannel pc dc]
          refine ⟨rfl, ?_⟩
          rintro _ ⟨⟩
      | true =>
          rw [state, run_createOfferSdp pc dc]
          refine ⟨rfl, ?_⟩
          rintro _ ⟨⟩
          exact first

theorem OneChannel.step (inv : OneChannel p) (noOther : ∀ pc, ev ≠ .callback (.dataChannel pc))
    (h : Process.step (manager L W) p ev = some q) : OneChannel q := by
  have state := Process.state_of_step h
  cases ev with
  | wsOpen hdl => exact inv.wsOpen h
  | wsMessage hdl payload =>
      refine inv.of_same ?_
      rw [state]
      exact final_messageHandler_of_ignores numbering_log hdl payload p.state
  | callback c =>
      cases c with
      | dataChannel pc => exact absurd rfl (noOther pc)
      | sdpCreated pc desc =>
          refine inv.of_same ?_
          rw [state]
          exact keeps_onSuccessCsd_of_ignores numbering_log (fun _ _ => rfl)
            (keeps_wsSend_of_ignores numbering_log (fun _ _ => rfl) _) _
      | iceCandidate pc candidate =>
          refine inv.of_same ?_
          rw [state]
          exact keeps_reportIce_of_ignores numbering_log (fun _ _ => rfl) (fun _ _ => rfl) _ _
      | stateChange dc st =>
          refine inv.of_same ?_
          rw [state]
          exact keeps_onStateChange_of_ignores (fun _ => rfl) (keeps_pure ()) _
      | sdpFailed pc => exact inv.of_same (by rw [state]; rfl)
      | message dc data => exact inv.of_same (by rw [state]; rfl)
  | wsFail hdl | wsClose hdl =>
      have closed : q.state.conns = Function.update p.state.conns hdl .closed := by rw [state]; rfl
      exact inv.of_moved (by nofun) closed (by rw [state]; rfl) (by rw [state]; rfl)
  | wsClosing hdl =>
      have closing : q.state.conns = Function.update p.state.conns hdl .closing := by
        rw [state]; rfl
      exact inv.of_moved (by nofun) closing (by rw [state]; rfl) (by rw [state]; rfl)
  | wsGone hdl => exact inv.of_same (by rw [state]; rfl)
  | line text =>
      refine inv.of_same ?_
      rw [state]
      exact keeps_send_of_ignores (fun _ _ => rfl) text p.state
  | quit =>
      cases current : p.state.peerConnection with
      | none => exact inv.of_same (by rw [(Process.step_error h (run_quit_null current)).1]; rfl)
      | some pc =>
          obtain ⟨state, -⟩ := Process.step_ok h (run_quit current)
          exact ⟨by rw [state]; rintro _ ⟨⟩, by rw [state]; exact inv.fresh⟩
  | runReturned => exact inv.of_same (by rw [state]; rfl)
  | eof => exact inv.of_same (by rw [state]; rfl)

/-- How far the loop over the lines has got: what has been handed over and what
is left make up the lines up to the first `exit`. -/
def Reads (input stdin handed : List Bytes) : Phase → Prop
  | .running => handed ++ upToExit stdin = upToExit input
  | .main => handed ++ upToExit stdin = upToExit input
  | .quitting => handed = upToExit input
  | .finished => handed = upToExit input
  | .aborted _ => handed <+: upToExit input

variable {input stdin rest handed : List Bytes}

theorem Reads.handed_le {phase : Phase} (reads : Reads input stdin handed phase) :
    handed <+: upToExit input := by
  cases phase with
  | running => exact ⟨_, reads⟩
  | main => exact ⟨_, reads⟩
  | quitting =>
      obtain rfl : handed = upToExit input := reads
      exact List.prefix_refl _
  | finished =>
      obtain rfl : handed = upToExit input := reads
      exact List.prefix_refl _
  | aborted why => exact reads

/-- A line is sent on the client's channel, or there is none and the process is
over. -/
theorem line_outcome {text : Bytes} (h : Process.step (manager L W) p (.line text) = some q) :
    (∃ dc, p.state.dataChannel = some dc ∧ channelSends q = channelSends p ++ [(dc, text)] ∧
        q.phase = if text = utf8 "exit" then .quitting else .main) ∨
      (channelSends q = channelSends p ∧ q.phase = .aborted .nullDereference) := by
  cases current : p.state.dataChannel with
  | none =>
      obtain ⟨state, phase⟩ := Process.step_error h (run_send_null text current)
      exact .inr ⟨by rw [channelSends, state]; rfl, phase⟩
  | some dc =>
      exact .inl ⟨dc, rfl, (channelSends_line current h).1,
        (Process.step_ok h (run_send text current)).2⟩

/-- The loop hands over a line it reads. -/
theorem Reads.line (reads : Reads input stdin ((channelSends p).map Prod.snd) p.phase)
    {text : Bytes} (typed : (Event.line text).read stdin = some rest)
    (h : Process.step (manager L W) p (.line text) = some q) :
    Reads input rest ((channelSends q).map Prod.snd) q.phase := by
  have looping : p.phase = .main := by
    simpa only [Event.enabled, decide_eq_true_eq] using (Process.step_eq_some h).1
  have next : stdin = text :: rest := by
    cases stdin with
    | nil => simp [Event.read] at typed
    | cons line lines =>
        simp only [Event.read, List.head?_cons, Option.some.injEq, List.tail_cons,
          Option.ite_none_right_eq_some] at typed
        rw [typed.1, typed.2]
  have before : (channelSends p).map Prod.snd ++ upToExit (text :: rest) = upToExit input := by
    rw [looping, next] at reads
    exact reads
  rcases line_outcome h with ⟨dc, -, sends, phase⟩ | ⟨sends, phase⟩
  · rw [sends, phase, List.map_append]
    rw [upToExit] at before
    split
    · rename_i exit
      rw [if_pos exit] at before
      exact before
    · rename_i other
      rw [if_neg other] at before
      show _ ++ [text] ++ upToExit rest = upToExit input
      rw [List.append_assoc]
      exact before
  · rw [sends, phase]
    exact ⟨_, before⟩

/-- Everything else leaves what was handed over. -/
theorem Reads.step (reads : Reads input stdin ((channelSends p).map Prod.snd) p.phase)
    (typed : ev.read stdin = some rest) (h : Process.step (manager L W) p ev = some q) :
    Reads input rest ((channelSends q).map Prod.snd) q.phase := by
  by_cases isLine : ∃ text, ev = .line text
  · obtain ⟨text, rfl⟩ := isLine
    exact reads.line typed h
  have other : ∀ text, ev ≠ .line text := fun text eq => isLine ⟨text, eq⟩
  rw [channelSends_of_step other h]
  have enabled := (Process.step_eq_some h).1
  rcases Process.phase_of_step h with phase | ⟨why, phase⟩
  · rw [phase]
    cases ev <;> simp only [Event.enabled, decide_eq_true_eq] at enabled
    case line text => exact absurd rfl (other text)
    case eof =>
      obtain ⟨rfl, rfl⟩ : stdin = [] ∧ rest = [] := by
        simpa [Event.read, eq_comm] using typed
      rw [enabled] at reads
      have all : (channelSends p).map Prod.snd ++ [] = upToExit input := reads
      rw [List.append_nil] at all
      exact all
    case quit =>
      rw [enabled] at reads
      exact reads
    case runReturned =>
      cases typed
      rw [enabled.1] at reads
      exact reads
    all_goals
      cases typed
      exact reads
  · rw [phase]
    exact reads.handed_le

/-- What the client sends goes on its channel. -/
theorem OneChannel.newSends (inv : OneChannel p)
    (h : Process.step (manager L W) p ev = some q) :
    ∃ data : List Bytes, channelSends q = channelSends p ++ data.map fun m => (0, m) := by
  by_cases isLine : ∃ text, ev = .line text
  · obtain ⟨text, rfl⟩ := isLine
    rcases line_outcome h with ⟨dc, current, sends, -⟩ | ⟨sends, -⟩
    · exact ⟨[text], by rw [sends, inv.pointer dc current]; rfl⟩
    · exact ⟨[], by rw [sends, List.map_nil, List.append_nil]⟩
  · refine ⟨[], ?_⟩
    rw [channelSends_of_step (fun text eq => isLine ⟨text, eq⟩) h, List.map_nil, List.append_nil]

end Client

/-! ### The server -/

/-- What the server has sent on its channels, and how often it has stopped. -/
def Endpoint.answering (e : Endpoint) :=
  (e.calls.filterMap Call.sent?, e.calls.count .stopListening)

namespace Server

open Echo

variable {L : JsonLibs} {W : WebRtc} {p q : Process} {ev : Event} {received : List Bytes}

/-- The server has answered each of these messages. -/
structure Answers (received : List Bytes) (p : Process) : Prop where
  noLines : p.phase ≠ .main
  channel : p.phase.alive = true → p.state.observed ≠ [] → p.state.dataChannel = some 0
  sends : channelSends p = (replies received).map fun data => (0, data)
  stops : stops p = received.count (utf8 "exit")

theorem answering_log (e : Endpoint) (c : Call) (quiet : c.sent? = none)
    (goesOn : c ≠ .stopListening) : (e.log c).answering = e.answering := by
  simp [Endpoint.answering, Endpoint.log, quiet, goesOn]

theorem answering_unsignaled : Unsignaled Endpoint.answering where
  log := by
    intro e c plain
    have quiet : c.sent? = none := by
      cases c <;> first | rfl | cases plain
    refine answering_log e c quiet ?_
    rintro rfl
    cases plain
  wsHdl := fun _ _ => rfl
  conns := fun _ _ => rfl
  gone := fun _ _ => rfl
  outbox := fun _ _ => rfl
  iceList := fun _ _ => rfl
  peers := fun _ _ _ => rfl
  requests := fun _ _ => rfl
  described := fun _ _ => rfl

/-- Only a message makes the server answer. -/
theorem answering_of_step (noMessage : ∀ dc data, ev ≠ .callback (.message dc data))
    (noLine : ∀ text, ev ≠ .line text) (h : Process.step (manager L W) p ev = some q) :
    q.state.answering = p.state.answering := by
  have view := answering_unsignaled
  have state := Process.state_of_step h
  cases ev with
  | callback c =>
      cases c with
      | dataChannel pc =>
          rw [state]
          exact view.log _ _ rfl
      | stateChange dc st =>
          rw [state]
          exact keeps_onStateChange_of_ignores (fun e => answering_log e _ rfl (by simp))
            (keeps_onSuccess_of_ignores (fun e _ => view.log e _ rfl)
              (fun e _ => answering_log e _ rfl (by simp)) view.conns) _
      | message dc data => exact absurd rfl (noMessage dc data)
      | _ => exact view.step rfl h
  | line text => exact absurd rfl (noLine text)
  | quit =>
      rw [state]
      exact keeps_quit_of_ignores view.log (fun _ => rfl) _
  | _ => exact view.step rfl h

/-- `stop_listening` is called for an `exit`. -/
theorem stops_message {dc : DcId} {data : Bytes}
    (h : Process.step (manager L W) p (.callback (.message dc data)) = some q) :
    stops q = stops p + if data = utf8 "exit" then 1 else 0 := by
  have state : q.state = final ((onMessage data).run p.state) := Process.state_of_step h
  by_cases exit : data = utf8 "exit"
  · rw [exit, run_onMessage_exit, run_stopListening] at state
    rw [stops, state]
    split <;> simp [stops, Endpoint.log]
  · rw [run_onMessage_echo exit] at state
    rw [stops, state, if_neg exit]
    cases current : p.state.dataChannel with
    | none => rw [run_send_null _ current]; rfl
    | some cur => simp [run_send _ current, stops, Endpoint.log]

/-- The channel with an observer stays number 0. -/
theorem Answers.channel_of_step (inv : Answers received p)
    (one : ∀ pc, ev = .callback (.dataChannel pc) → p.state.channels = 0)
    (h : Process.step (manager L W) p ev = some q) (alive : q.phase.alive = true)
    (observed : q.state.observed ≠ []) : q.state.dataChannel = some 0 := by
  have serving := serving_of_step (Process.ne_quit_of_alive h alive) h
  have pointer : q.state.dataChannel = q.state.serving.2.1 := rfl
  by_cases opened : ∃ pc, ev = .callback (.dataChannel pc)
  · obtain ⟨pc, rfl⟩ := opened
    rw [pointer, serving, one pc rfl]
  · have same : q.state.serving.2 = (p.state.dataChannel, p.state.observed) := by
      rw [serving]
      split
      · exact absurd ⟨_, rfl⟩ opened
      · rfl
      · rfl
    have observers : q.state.observed = q.state.serving.2.2 := rfl
    rw [observers, same] at observed
    rw [pointer, same]
    exact inv.channel (Process.alive_of_step h) observed

theorem Answers.step (inv : Answers received p)
    (noMessage : ∀ dc data, ev ≠ .callback (.message dc data))
    (one : ∀ pc, ev = .callback (.dataChannel pc) → p.state.channels = 0)
    (h : Process.step (manager L W) p ev = some q) : Answers received q := by
  have noLine : ∀ text, ev ≠ .line text := by
    rintro text rfl
    refine inv.noLines ?_
    simpa only [Event.enabled, decide_eq_true_eq] using (Process.step_eq_some h).1
  have same := answering_of_step noMessage noLine h
  simp only [Endpoint.answering, Prod.mk.injEq] at same
  constructor
  · exact (phase_of_serving inv.noLines h).1
  · exact inv.channel_of_step one h
  · exact same.1.trans inv.sends
  · exact same.2.trans inv.stops

theorem Answers.message (inv : Answers received p) {dc : DcId} {data : Bytes}
    (h : Process.step (manager L W) p (.callback (.message dc data)) = some q) :
    Answers (received ++ [data]) q := by
  have enabled := Process.callback_enabled h
  simp only [Callback.enabled, decide_eq_true_eq] at enabled
  have current := inv.channel (Process.alive_of_step h) (List.ne_nil_of_mem enabled)
  have calls := channelCalls_message h
  rw [current] at calls
  have sends := (counts_of_append calls).2.2
  constructor
  · exact (phase_of_serving inv.noLines h).1
  · exact inv.channel_of_step (by simp) h
  · rw [sends, inv.sends, replies_concat, List.map_append]
    split <;> rfl
  · rw [stops_message h, inv.stops, List.count_append, List.count_singleton]
    simp only [beq_iff_eq]

end Server

/-! ### Runs -/

theorem newSends_self (p : Process) : newSends p p = [] := newSends_eq (List.append_nil _).symm

theorem Server.Answers.flushed {received : List Bytes} {p : Process} (inv : Answers received p) :
    Answers received p.flushed := ⟨inv.noLines, inv.channel, inv.sends, inv.stops⟩

namespace Session

variable {L : JsonLibs} {Wc Ws : WebRtc} {s t : Session}

theorem act_client {ev : Event} (h : Session.step L Wc Ws s (.act .client ev) = some t) :
    ∃ p, Process.step (Client.manager L Wc) s.client ev = some p ∧ t.client = p.flushed ∧
      t.server = s.server := by
  simp only [Session.step, Option.ite_none_right_eq_some, Option.map_eq_some_iff] at h
  obtain ⟨-, p, moved, rfl⟩ := h
  exact ⟨p, moved, rfl, rfl⟩

theorem act_server {ev : Event} (h : Session.step L Wc Ws s (.act .server ev) = some t) :
    ∃ p, Process.step (Server.manager L Ws) s.server ev = some p ∧ t.server = p.flushed ∧
      t.client = s.client := by
  simp only [Session.step, Option.ite_none_right_eq_some, Option.map_eq_some_iff] at h
  obtain ⟨-, p, moved, rfl⟩ := h
  exact ⟨p, moved, rfl, rfl⟩

/-- The delivery of a signaling message is a step of the program it reaches. -/
theorem deliver_client (h : Session.step L Wc Ws s (.deliver .client) = some t) :
    ∃ payload p, Process.step (Client.manager L Wc) s.client (.wsMessage 0 payload) = some p ∧
      t.client = p.flushed ∧ t.server = s.server := by
  simp only [Session.step, Option.bind_eq_some_iff, Option.map_eq_some_iff] at h
  obtain ⟨⟨payload, rest⟩, -, p, moved, rfl⟩ := h
  exact ⟨payload, p, moved, rfl, rfl⟩

theorem deliver_server (h : Session.step L Wc Ws s (.deliver .server) = some t) :
    ∃ payload p, Process.step (Server.manager L Ws) s.server (.wsMessage 0 payload) = some p ∧
      t.server = p.flushed ∧ t.client = s.client := by
  simp only [Session.step, Option.bind_eq_some_iff, Option.map_eq_some_iff] at h
  obtain ⟨⟨payload, rest⟩, -, p, moved, rfl⟩ := h
  exact ⟨payload, p, moved, rfl, rfl⟩

end Session

namespace Echo

variable {L : JsonLibs} {Wc Ws : WebRtc} {input : List Bytes} {s t : Echo}

/-- The invariant: each side has done its part, and each direction of the channel
has been given what its side sent. -/
structure Inv (input : List Bytes) (s : Echo) : Prop where
  oneChannel : Client.OneChannel s.session.client
  reads : Client.Reads input s.stdin s.handed s.session.client.phase
  up : s.up.sent = s.handed
  answers : Server.Answers s.up.received s.session.server
  down : s.down.sent = replies s.up.received

theorem inv_initial (input : List Bytes) : Inv input (initial input) where
  oneChannel := ⟨(by rintro _ ⟨⟩), fun _ => rfl⟩
  reads := rfl
  up := rfl
  answers := ⟨(by rintro ⟨⟩), fun _ some => absurd rfl some, rfl, rfl⟩
  down := rfl

/-- A step of the client. -/
theorem Inv.client (inv : Inv input s) {ev : Event} {p : Process} {u : Session}
    {rest : List Bytes} (noOther : ∀ pc, ev ≠ .callback (.dataChannel pc))
    (typed : ev.read s.stdin = some rest)
    (moved : Process.step (Client.manager L Wc) s.session.client ev = some p)
    (client : u.client = p.flushed) (server : u.server = s.session.server) :
    Inv input (follow { s with stdin := rest } u) := by
  obtain ⟨_, _, toServer, toClient⟩ := u
  obtain rfl := client
  obtain rfl := server
  obtain ⟨data, sends⟩ := inv.oneChannel.newSends moved
  have one := inv.oneChannel.step noOther moved
  have reads := inv.reads.step typed moved
  have flushed : channelSends p.flushed =
      channelSends s.session.client ++ data.map fun m => (0, m) := sends
  constructor
  · exact ⟨one.pointer, one.fresh⟩
  · exact reads
  · show (s.up.pushAll _).sent = (channelSends p.flushed).map Prod.snd
    rw [newSends_eq flushed, onChannel_zero, Fifo.pushAll_sent, inv.up, flushed]
    simp [handed, Function.comp_def]
  · show Server.Answers (s.up.pushAll _).received s.session.server
    rw [Fifo.pushAll_received]
    exact inv.answers
  · show (s.down.pushAll _).sent = replies (s.up.pushAll _).received
    rw [newSends_self, Fifo.pushAll_received]
    exact inv.down

/-- A step of the server; `up` is the direction to it after the step. -/
theorem Inv.server (inv : Inv input s) {p : Process} {u : Session} {up : Fifo Bytes}
    {data : List Bytes} (sent : up.sent = s.up.sent)
    (answers : Server.Answers up.received p)
    (sends : replies up.received = replies s.up.received ++ data)
    (server : u.server = p.flushed) (client : u.client = s.session.client) :
    Inv input (follow { s with up := up } u) := by
  obtain ⟨_, _, toServer, toClient⟩ := u
  obtain rfl := client
  obtain rfl := server
  have flushed : channelSends p.flushed =
      channelSends s.session.server ++ data.map fun m => (0, m) := by
    rw [inv.answers.sends, ← List.map_append, ← sends]
    exact answers.sends
  constructor
  · exact inv.oneChannel
  · exact inv.reads
  · show (up.pushAll _).sent = handed s
    rw [newSends_self]
    exact sent.trans inv.up
  · show Server.Answers (up.pushAll _).received p.flushed
    rw [Fifo.pushAll_received]
    exact answers.flushed
  · show (s.down.pushAll _).sent = replies (up.pushAll _).received
    rw [newSends_eq flushed, onChannel_zero, Fifo.pushAll_sent, Fifo.pushAll_received, inv.down,
      sends]

/-- An action that is not a message on the channel. -/
theorem Inv.session (inv : Inv input s) {a : Action}
    (h : step L Wc Ws s (.session a) = some t) : Inv input t := by
  simp only [step, Option.ite_none_right_eq_some, Option.bind_eq_some_iff,
    Option.map_eq_some_iff] at h
  obtain ⟨admitted, rest, typed, u, acted, rfl⟩ := h
  have quiet : ∀ {p : Process}, Server.Answers s.up.received p → u.server = p.flushed →
      u.client = s.session.client → Inv input (follow s u) := fun answers server client =>
    inv.server rfl answers (List.append_nil _).symm server client
  rcases a with ⟨side, ev⟩ | side <;> cases side
  case act.client =>
    obtain ⟨p, moved, client, server⟩ := Session.act_client acted
    refine inv.client ?_ typed moved client server
    rintro pc rfl
    cases admitted
  case act.server =>
    cases typed
    obtain ⟨p, moved, server, client⟩ := Session.act_server acted
    refine quiet (inv.answers.step ?_ ?_ moved) server client
    · rintro dc data rfl
      cases admitted
    · rintro pc rfl
      simpa [admits] using admitted
  case deliver.client =>
    cases typed
    obtain ⟨payload, p, moved, client, server⟩ := Session.deliver_client acted
    exact inv.client (by simp) rfl moved client server
  case deliver.server =>
    cases typed
    obtain ⟨payload, p, moved, server, client⟩ := Session.deliver_server acted
    exact quiet (inv.answers.step (by simp) (by simp) moved) server client

/-- A message reaches the client. -/
theorem Inv.toClient (inv : Inv input s) (h : step L Wc Ws s (.deliver .client) = some t) :
    Inv input t := by
  simp only [step, Option.bind_eq_some_iff, Option.map_eq_some_iff] at h
  obtain ⟨⟨data, rest⟩, popped, u, acted, rfl⟩ := h
  have sent := (Fifo.pop_eq_some popped).2.2.1
  have popInv : Inv input { s with down := rest } :=
    ⟨inv.oneChannel, inv.reads, inv.up, inv.answers, sent.trans inv.down⟩
  obtain ⟨p, moved, client, server⟩ := Session.act_client acted
  exact popInv.client (by simp) rfl moved client server

/-- A message reaches the server. -/
theorem Inv.toServer (inv : Inv input s) (h : step L Wc Ws s (.deliver .server) = some t) :
    Inv input t := by
  simp only [step, Option.bind_eq_some_iff, Option.map_eq_some_iff] at h
  obtain ⟨⟨data, rest⟩, popped, u, acted, rfl⟩ := h
  obtain ⟨-, received, sent, -⟩ := Fifo.pop_eq_some popped
  obtain ⟨p, moved, server, client⟩ := Session.act_server acted
  have answers := inv.answers.message moved
  rw [← received] at answers
  exact inv.server sent answers (by rw [received, replies_concat]) server client

theorem Inv.step (inv : Inv input s) {m : Move} (h : Echo.step L Wc Ws s m = some t) :
    Inv input t := by
  cases m with
  | session a => exact inv.session h
  | deliver side =>
      cases side with
      | client => exact inv.toClient h
      | server => exact inv.toServer h
  | refuse side | lose side =>
      cases side <;>
      · cases h
        exact ⟨inv.oneChannel, inv.reads, inv.up, inv.answers, inv.down⟩

theorem inv_of_run {moves : List Move} (run : (machine L Wc Ws input).run moves = some s) :
    Inv input s :=
  Automaton.Reachable.invariant (inv_initial input) (fun _ _ _ inv h => inv.step h) ⟨moves, run⟩

/-- The protocol, in a state of a run with these lines. -/
structure Follows (input : List Bytes) (s : Echo) : Prop where
  /-- The client hands over lines up to the first `exit`, in order. -/
  handed : s.handed <+: upToExit input
  /-- While it reads lines, those it has read are handed over. -/
  reading : s.session.client.phase = .running ∨ s.session.client.phase = .main →
    s.handed ++ upToExit s.stdin = upToExit input
  /-- When it has read its last line, all of them are. -/
  done : s.session.client.phase = .quitting ∨ s.session.client.phase = .finished →
    s.handed = upToExit input
  /-- What reaches the server is what was handed over, byte for byte. -/
  arrives : s.up.received <+: s.handed
  /-- What reaches the client are the replies to what reached the server. -/
  echoes : s.down.received <+: replies s.up.received
  /-- The server stops when an `exit` reaches it. -/
  stops : stops s.session.server = s.up.received.count (utf8 "exit")
  once : Echo.stops s.session.server ≤ 1

theorem Inv.follows (inv : Inv input s) : Follows input s := by
  have reads := inv.reads
  have arrives : s.up.received <+: s.handed := inv.up ▸ s.up.received_of_sent
  constructor
  · exact reads.handed_le
  · rintro (phase | phase) <;>
    · rw [phase] at reads
      exact reads
  · rintro (phase | phase) <;>
    · rw [phase] at reads
      exact reads
  · exact arrives
  · exact inv.down ▸ s.down.received_of_sent
  · exact inv.answers.stops
  · calc Echo.stops s.session.server = s.up.received.count (utf8 "exit") := inv.answers.stops
      _ ≤ (upToExit input).count (utf8 "exit") :=
          (arrives.trans reads.handed_le).sublist.count_le _
      _ ≤ 1 := count_upToExit input

end Echo

/-- **The echo protocol.** In every run of the client and the server, for every
input, every interleaving and a channel that may die at any point. -/
theorem echo_protocol {L : JsonLibs} {Wc Ws : WebRtc} {input : List Bytes}
    {moves : List Echo.Move} {s : Echo}
    (run : (Echo.machine L Wc Ws input).run moves = some s) : Echo.Follows input s :=
  (Echo.inv_of_run run).follows

/-- The user types `hi` with a NUL in it, then `exit`, then another line. -/
def Echo.typed : List Bytes := [[104, 0, 105], utf8 "exit", utf8 "late"]

/-- The channel opens, and the client goes on to its lines. -/
def Session.connected : List Action :=
  Session.exchange ++
    [.act .server (.callback (.dataChannel 0)), .act .server (.callback (.stateChange 0 .open)),
      .act .client (.callback (.stateChange 0 .open)), .act .client (.wsClose 0),
      .act .client .runReturned]

/-- The lines go over the channel, and the client quits. -/
def Echo.hello : List Echo.Move :=
  Session.connected.map .session ++
    [.session (.act .client (.line [104, 0, 105])), .deliver .server,
      .session (.act .client (.line (utf8 "exit"))), .deliver .client, .deliver .server,
      .session (.act .client .quit)]

/-- The first line comes back, and the server stops. -/
theorem echo_protocol_hello :
    ∃ s, (Echo.machine .reference .reference .reference Echo.typed).run Echo.hello = some s ∧
      s.handed = [[104, 0, 105], utf8 "exit"] ∧
      s.down.received = [utf8 "Echo of: " ++ [104, 0, 105]] ∧
      Echo.stops s.session.server = 1 ∧ Echo.Follows Echo.typed s := by
  have checked : ((Echo.machine .reference .reference .reference Echo.typed).run
      Echo.hello).any (fun s => s.handed = [[104, 0, 105], utf8 "exit"] ∧
        s.down.received = [utf8 "Echo of: " ++ [104, 0, 105]] ∧
        Echo.stops s.session.server = 1) = true := by
    decide +kernel
  obtain ⟨s, run, facts⟩ := (Option.any_eq_true _ _).mp checked
  obtain ⟨handed, received, stops⟩ := of_decide_eq_true facts
  exact ⟨s, run, handed, received, stops, echo_protocol run⟩

end WebrtcSample
