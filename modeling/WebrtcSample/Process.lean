import WebrtcSample.Util.WebRtcManager
import WebrtcSample.Lib.Automaton

/-!
One program as an automaton.

A program moves when one of its threads calls its code: the WebSocket thread
calls a handler, the signaling thread an observer, the main thread goes on after
`run()` or reads a line. Each such call is one `Event`, and which event comes
next is up to the environment, within what websocketpp and libwebrtc promise:
handlers run for connections in the right state, an observer is called for an
object it was given to, and one observer call runs at a time. Leaving a handler
or an observer by an exception, `exit` or a null pointer ends the process.

`Manager` collects what the two programs do differently, so that the machine and
the facts about it are stated once.
-/

namespace WebrtcSample

/-- Where the main thread of a program is. -/
inductive Phase where
  /-- In the constructor's `run()`. -/
  | running
  /-- In the loop over the lines of standard input. -/
  | main
  /-- About to call `quit`. -/
  | quitting
  | finished
  | aborted (why : Abort)
deriving DecidableEq, Repr

/-- The process exists and has not closed its peer connection. -/
def Phase.alive : Phase → Bool
  | .running => true
  | .main => true
  | .quitting => true
  | _ => false

/-- A call from libwebrtc's signaling thread. -/
inductive Callback where
  /-- `CSDO::OnSuccess`, for a description this peer connection created. -/
  | sdpCreated (pc : PcId) (desc : SessionDescription)
  /-- `CSDO::OnFailure`. -/
  | sdpFailed (pc : PcId)
  | iceCandidate (pc : PcId) (candidate : IceCandidate)
  | dataChannel (pc : PcId)
  /-- `DCO::OnStateChange`: the channel has just moved to this state. -/
  | stateChange (dc : DcId) (state : DataState)
  | message (dc : DcId) (data : Bytes)

inductive Event where
  | wsOpen (hdl : Hdl)
  /-- The connection attempt failed; neither program sets a fail handler. -/
  | wsFail (hdl : Hdl)
  | wsClose (hdl : Hdl)
  /-- The connection is no longer open, and its close handler has not been called:
  the other side's close frame has arrived, or the transport has failed. -/
  | wsClosing (hdl : Hdl)
  /-- The last pointer to a closed connection is dropped. -/
  | wsGone (hdl : Hdl)
  | wsMessage (hdl : Hdl) (payload : Bytes)
  | callback (c : Callback)
  /-- `run()` returns to the constructor and the constructor to `main`. -/
  | runReturned
  /-- `std::getline` yields a line. -/
  | line (text : Bytes)
  /-- `std::getline` fails. -/
  | eof
  | quit

/-- What the two programs do differently. -/
structure Manager where
  callbacks : Callbacks
  openHandler : Hdl → Prog Unit
  closeHandler : Hdl → Prog Unit
  messageHandler : Hdl → Bytes → Prog Unit
  /-- The connections this program can have. -/
  accepts : Hdl → Bool
  /-- `run()` can return normally. -/
  runReturns : Endpoint → Bool
  /-- The constructor keeps a pointer to the connection until it returns. -/
  holds : Bool
  /-- What `main` does after the constructor. -/
  afterRun : Phase

/-- A running program. `creator` is not program state: it remembers which
connection's handler created a peer connection. -/
structure Process where
  state : Endpoint
  phase : Phase
  creator : PcId → Option Hdl

def Process.initial : Process := ⟨.initial, .running, fun _ => none⟩

def Call.sent? : Call → Option (DcId × Bytes)
  | .send dc data => some (dc, data)
  | _ => none

/-- What the program has given to `Send`, and on which channel. -/
def channelSends (p : Process) : List (DcId × Bytes) := p.state.calls.filterMap Call.sent?

/-- What it has given to `Send` between two states. -/
def newSends (p q : Process) : List (DcId × Bytes) :=
  (channelSends q).drop (channelSends p).length

theorem newSends_eq {p q : Process} {more : List (DcId × Bytes)}
    (sends : channelSends q = channelSends p ++ more) : newSends p q = more := by
  rw [newSends, sends, List.drop_left]

/-! ### Callbacks -/

namespace Callback

/-- What libwebrtc promises about its callbacks. -/
def enabled (e : Endpoint) : Callback → Bool
  | sdpCreated pc _ => pc ∈ e.requests
  | sdpFailed pc => pc ∈ e.requests
  | iceCandidate pc _ => pc ∈ e.described
  | dataChannel pc => pc < e.peers
  | stateChange dc state => dc ∈ e.observed ∧ (e.channelState dc).before state
  | message dc _ => dc ∈ e.observed

/-- What libwebrtc has done when it makes the call. -/
def enter (e : Endpoint) : Callback → Endpoint
  | sdpCreated pc _ => { e with requests := e.requests.erase pc }
  | sdpFailed pc => { e with requests := e.requests.erase pc }
  | iceCandidate _ _ => e
  | dataChannel pc =>
      { e with
        channels := e.channels + 1
        channelPeer := Function.update e.channelPeer e.channels pc
        channelState := Function.update e.channelState e.channels .connecting }
  | stateChange dc state => { e with channelState := Function.update e.channelState dc state }
  | message _ _ => e

/-- The observer's code. -/
def code (cb : Callbacks) (e : Endpoint) : Callback → Prog Unit
  | sdpCreated _ desc => Connection.onSuccessCsd cb desc
  | sdpFailed _ => pure ()
  | iceCandidate _ candidate => Connection.onIceCandidate cb candidate
  | dataChannel _ => Connection.onDataChannel e.channels
  | stateChange _ _ => Connection.onStateChange cb
  | message _ data => cb.onMessage data

end Callback

/-! ### The machine -/

namespace Event

variable (m : Manager)

def enabled (p : Process) : Event → Bool
  | wsOpen hdl => p.phase = .running ∧ m.accepts hdl ∧ p.state.conns hdl = .absent
  | wsFail hdl => p.phase = .running ∧ m.accepts hdl ∧ p.state.conns hdl = .absent
  | wsClose hdl =>
      p.phase = .running ∧ (p.state.conns hdl = .open ∨ p.state.conns hdl = .closing)
  | wsClosing hdl => p.phase = .running ∧ p.state.conns hdl = .open
  | wsGone hdl =>
      p.phase.alive ∧ p.state.conns hdl = .closed ∧ (m.holds → p.phase ≠ .running)
  | wsMessage hdl _ =>
      p.phase = .running ∧ (p.state.conns hdl = .open ∨ p.state.conns hdl = .closing)
  | callback c => p.phase.alive ∧ c.enabled p.state
  | runReturned => p.phase = .running ∧ m.runReturns p.state
  | line _ => p.phase = .main
  | eof => p.phase = .main
  | quit => p.phase = .quitting

/-- What the library has done when it makes the call. -/
def enter (e : Endpoint) : Event → Endpoint
  | wsOpen hdl => { e with conns := Function.update e.conns hdl .open }
  | wsFail hdl => { e with conns := Function.update e.conns hdl .closed }
  | wsClose hdl => { e with conns := Function.update e.conns hdl .closed }
  | wsClosing hdl => { e with conns := Function.update e.conns hdl .closing }
  | wsGone hdl => { e with gone := Function.update e.gone hdl true }
  | callback c => c.enter e
  | _ => e

def code (e : Endpoint) : Event → Prog Unit
  | wsOpen hdl => m.openHandler hdl
  | wsFail _ => pure ()
  | wsClose hdl => m.closeHandler hdl
  | wsClosing _ => pure ()
  | wsGone _ => pure ()
  | wsMessage hdl payload => m.messageHandler hdl payload
  | callback c => c.code m.callbacks e
  | runReturned => pure ()
  | line text => WebRtcManager.send text
  | eof => pure ()
  | quit => WebRtcManager.quit

/-- Where the main thread is when the code has returned. A line is compared with
`exit` after the loop read it; both branches send it. -/
def next (phase : Phase) : Event → Phase
  | runReturned => m.afterRun
  | line text => if text = utf8 "exit" then .quitting else .main
  | eof => .finished
  | quit => .finished
  | _ => phase

/-- The connection whose handler this event runs. -/
def hdl? : Event → Option Hdl
  | wsOpen hdl => some hdl
  | wsFail _ => none
  | wsClose hdl => some hdl
  | wsMessage hdl _ => some hdl
  | _ => none

end Event

namespace Process

variable (m : Manager)

/-- The process after its code ran. -/
def settle (p : Process) (ev : Event) : EStateM.Result Abort Endpoint Unit → Process
  | .ok _ e => ⟨e, ev.next m p.phase, p.creator⟩
  | .error why e => ⟨e, .aborted why, p.creator⟩

/-- A handler that created a peer connection is its creator. -/
def credit (p q : Process) (ev : Event) : Process :=
  if p.state.peers < q.state.peers then
    { q with creator := Function.update q.creator p.state.peers ev.hdl? }
  else q

def step (p : Process) (ev : Event) : Option Process :=
  if ev.enabled m p then
    some (p.credit (p.settle m ev ((ev.code m p.state).run (ev.enter p.state))) ev)
  else none

/-- The program as an automaton over its events. -/
def machine : Automaton Process Event := ⟨.initial, step m⟩

variable {m} {p q : Process} {ev : Event}

@[simp] theorem credit_state : (p.credit q ev).state = q.state := by
  unfold credit; split <;> rfl

@[simp] theorem credit_phase : (p.credit q ev).phase = q.phase := by
  unfold credit; split <;> rfl

/-- A step runs the event's code on the state the library left. -/
theorem step_eq_some (h : step m p ev = some q) :
    ev.enabled m p = true ∧
      ((∃ e, (ev.code m p.state).run (ev.enter p.state) = .ok () e ∧
          q.state = e ∧ q.phase = ev.next m p.phase) ∨
        ∃ why e, (ev.code m p.state).run (ev.enter p.state) = .error why e ∧
          q.state = e ∧ q.phase = .aborted why) := by
  unfold step at h
  split at h
  · rename_i enabled
    cases h
    refine ⟨enabled, ?_⟩
    cases (ev.code m p.state).run (ev.enter p.state) with
    | ok u e => exact .inl ⟨e, by simp [settle]⟩
    | error why e => exact .inr ⟨why, e, by simp [settle]⟩
  · cases h

/-- A step whose code returns. -/
theorem step_ok {e : Endpoint} (h : step m p ev = some q)
    (run : (ev.code m p.state).run (ev.enter p.state) = .ok () e) :
    q.state = e ∧ q.phase = ev.next m p.phase := by
  obtain ⟨-, ⟨e', run', state, phase⟩ | ⟨why, e', run', -⟩⟩ := step_eq_some h
  · rw [run] at run'
    cases run'
    exact ⟨state, phase⟩
  · rw [run] at run'
    cases run'

/-- A step whose code does not return. -/
theorem step_error {e : Endpoint} {why : Abort} (h : step m p ev = some q)
    (run : (ev.code m p.state).run (ev.enter p.state) = .error why e) :
    q.state = e ∧ q.phase = .aborted why := by
  obtain ⟨-, ⟨e', run', -⟩ | ⟨why', e', run', state, phase⟩⟩ := step_eq_some h
  · rw [run] at run'
    cases run'
  · rw [run] at run'
    cases run'
    exact ⟨state, phase⟩

/-- A step leaves the state its code left. -/
theorem state_of_step (h : step m p ev = some q) :
    q.state = Effect.final ((ev.code m p.state).run (ev.enter p.state)) := by
  obtain ⟨-, ⟨e, run, state, -⟩ | ⟨why, e, run, state, -⟩⟩ := step_eq_some h
  · rw [state, run, Effect.final_ok]
  · rw [state, run, Effect.final_error]

/-- The main thread goes on as the code says, unless the code does not return. -/
theorem phase_of_step (h : step m p ev = some q) :
    q.phase = ev.next m p.phase ∨ ∃ why, q.phase = .aborted why := by
  obtain ⟨-, ⟨e, run, state, phase⟩ | ⟨why, e, run, state, phase⟩⟩ := step_eq_some h
  · exact .inl phase
  · exact .inr ⟨why, phase⟩

/-- A peer connection that a step creates is credited to the connection whose
handler ran. -/
theorem creator_of_step (h : step m p ev = some q) :
    q.creator =
      if p.state.peers < q.state.peers then
        Function.update p.creator p.state.peers ev.hdl?
      else p.creator := by
  unfold step at h
  split at h
  · cases h
    rw [credit_state, credit]
    cases (ev.code m p.state).run (ev.enter p.state) <;> split <;> rfl
  · cases h

/-- A callback is made only within what libwebrtc promises. -/
theorem callback_enabled {c : Callback} (h : step m p (.callback c) = some q) :
    c.enabled p.state = true := by
  have enabled := (step_eq_some h).1
  simp only [Event.enabled, decide_eq_true_eq] at enabled
  exact enabled.2

/-- A process that is alive has not called `quit`. -/
theorem ne_quit_of_alive (h : step m p ev = some q) (alive : q.phase.alive = true) :
    ev ≠ .quit := by
  rintro rfl
  rcases phase_of_step h with phase | ⟨why, phase⟩ <;>
  · rw [phase] at alive
    cases alive

/-- What is enabled can happen. -/
theorem exists_step (enabled : ev.enabled m p = true) : ∃ q, step m p ev = some q := by
  simp only [step, enabled, if_true]
  exact ⟨_, rfl⟩

/-- A step is taken by a process that is alive. -/
theorem alive_of_step (h : step m p ev = some q) : p.phase.alive = true := by
  have enabled := (step_eq_some h).1
  cases ev <;> simp only [Event.enabled, decide_eq_true_eq] at enabled
  case callback c => exact enabled.1
  case wsGone hdl => exact enabled.1
  case line => rw [enabled]; rfl
  case eof => rw [enabled]; rfl
  case quit => rw [enabled]; rfl
  all_goals rw [enabled.1]; rfl

end Process

end WebrtcSample
