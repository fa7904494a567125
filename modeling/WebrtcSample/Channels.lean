import WebrtcSample.Server

/-!
Data channel events on the server.

One observer is registered on every channel the peer opens, but its code looks
at the latest channel only: `on_state_change` reads the latest channel's state,
and the echo goes out on the latest channel. With one channel that is the
channel that raised the event. `acts_on_own_channel_iff` says what it takes with
several: each event must come from the latest channel, or be one for which the
difference does not show.
-/

namespace WebrtcSample

open Prog Effect WebRtcManager

/-- A channel becomes open. -/
def Event.opensChannel : Event → Bool
  | .callback (.stateChange _ .open) => true
  | _ => false

def Endpoint.channelCalls (e : Endpoint) : List Call := e.calls.filter Call.isChannelCall

/-- How often `on_success` has been called. -/
def successes (p : Process) : Nat := p.state.calls.count .onSuccess

def Call.isWsClose : Call → Bool
  | .wsClose _ => true
  | _ => false

/-- How often the server has closed a signaling connection. -/
def closes (p : Process) : Nat := p.state.calls.countP Call.isWsClose

/-- The step acts on the channel that raised its event: `on_success` is called
once if a channel becomes open and not otherwise, a signaling connection is
closed for no other reason, and a message is echoed on its own channel. -/
def ActsOnOwnChannel (p : Process) (ev : Event) (q : Process) : Prop :=
  successes q = successes p + (if ev.opensChannel then 1 else 0) ∧
  closes q ≤ closes p + (if ev.opensChannel then 1 else 0) ∧
  ∀ dc data, ev = .callback (.message dc data) → data ≠ utf8 "exit" →
    channelSends q = channelSends p ++ [(dc, utf8 "Echo of: " ++ data)]

/-- The latest channel exists and is open. -/
def Endpoint.latestOpen (e : Endpoint) : Prop :=
  ∃ dc, e.dataChannel = some dc ∧ e.channelState dc = .open

/-- The event comes from the latest channel, or from another one at a moment
when the latest is open exactly if this one becomes open; a message from another
channel is `exit`. -/
def FromLatestChannel (p : Process) (ev : Event) (_ : Process) : Prop :=
  match ev with
  | .callback (.stateChange dc st) =>
      p.state.dataChannel = some dc ∨ (p.state.latestOpen ↔ st = .open)
  | .callback (.message dc data) => p.state.dataChannel = some dc ∨ data = utf8 "exit"
  | _ => True

/-! ### What a step adds to the channel calls -/

namespace Server

variable {L : JsonLibs} {W : WebRtc} {p q : Process} {ev : Event}

theorem channelCalls_log (e : Endpoint) (c : Call) (other : c.isChannelCall = false) :
    (e.log c).channelCalls = e.channelCalls := by
  simp [Endpoint.channelCalls, Endpoint.log, other]

theorem channelCalls_unsignaled : Unsignaled Endpoint.channelCalls where
  log := fun e c plain => channelCalls_log e c (Call.isChannelCall_of_isPlain plain)
  wsHdl := fun _ _ => rfl
  conns := fun _ _ => rfl
  gone := fun _ _ => rfl
  outbox := fun _ _ => rfl
  iceList := fun _ _ => rfl
  peers := fun _ _ _ => rfl
  requests := fun _ _ => rfl
  described := fun _ _ => rfl

/-- Events other than state changes and messages of a channel, and lines. -/
def keepsChannel : Event → Bool
  | .callback (.stateChange _ _) => false
  | .callback (.message _ _) => false
  | .line _ => false
  | _ => true

theorem channelCalls_of_keeps (keeps : keepsChannel ev = true)
    (h : Process.step (manager L W) p ev = some q) :
    q.state.channelCalls = p.state.channelCalls := by
  have state := Process.state_of_step h
  cases ev with
  | callback c =>
      cases c with
      | dataChannel pc =>
          rw [state]
          exact channelCalls_log _ _ rfl
      | stateChange dc st => cases keeps
      | message dc data => cases keeps
      | _ => exact channelCalls_unsignaled.step rfl h
  | line text => cases keeps
  | quit =>
      rw [state]
      exact keeps_quit_of_ignores channelCalls_unsignaled.log (fun _ => rfl) _
  | _ => exact channelCalls_unsignaled.step rfl h

/-- `on_success` closes at most one connection. -/
theorem channelCalls_onSuccess (e : Endpoint) :
    ∃ closing, (closing = [] ∨ ∃ hdl, closing = [.wsClose hdl]) ∧
      (final (onSuccess.run e)).channelCalls = e.channelCalls ++ closing := by
  rw [Endpoint.channelCalls, calls_onSuccess, List.filter_append]
  refine ⟨(closeCalls e).filter Call.isChannelCall, ?_, rfl⟩
  unfold closeCalls
  split
  · exact .inl rfl
  · exact .inr ⟨_, rfl⟩

/-- A state change calls `on_success` exactly if the latest channel is open after
it. -/
theorem channelCalls_stateChange {dc : DcId} {st : DataState}
    (h : Process.step (manager L W) p (.callback (.stateChange dc st)) = some q) :
    (({ p.state with channelState := Function.update p.state.channelState dc st } :
          Endpoint).latestOpen ∧
        ∃ closing, (closing = [] ∨ ∃ hdl, closing = [.wsClose hdl]) ∧
          q.state.channelCalls = p.state.channelCalls ++ .onSuccess :: closing) ∨
      (¬ ({ p.state with channelState := Function.update p.state.channelState dc st } :
          Endpoint).latestOpen ∧ q.state.channelCalls = p.state.channelCalls) := by
  let e : Endpoint :=
    { p.state with channelState := Function.update p.state.channelState dc st }
  have state : q.state = final ((Connection.onStateChange (callbacks L)).run e) :=
    Process.state_of_step h
  cases current : p.state.dataChannel with
  | none =>
      have here : e.dataChannel = none := current
      rw [Connection.run_onStateChange_null _ here] at state
      refine .inr ⟨?_, by rw [state]; rfl⟩
      rintro ⟨cur, some, -⟩
      rw [show e.dataChannel = none from current] at some
      cases some
  | some cur =>
      have here : e.dataChannel = some cur := current
      rw [Connection.run_onStateChange _ here] at state
      split at state
      · rename_i isOpen
        obtain ⟨closing, shape, calls⟩ := channelCalls_onSuccess (e.log .onSuccess)
        refine .inl ⟨⟨cur, here, isOpen⟩, closing, shape, ?_⟩
        rw [state]
        refine calls.trans ?_
        simp [Endpoint.channelCalls, Endpoint.log, Call.isChannelCall, List.filter_cons, e]
      · rename_i notOpen
        refine .inr ⟨?_, by rw [state]; rfl⟩
        rintro ⟨other, some, isOpen⟩
        rw [here] at some
        cases some
        exact notOpen isOpen

/-- A message other than `exit` is echoed on the latest channel, if there is
one. -/
theorem channelCalls_message {dc : DcId} {data : Bytes}
    (h : Process.step (manager L W) p (.callback (.message dc data)) = some q) :
    q.state.channelCalls = p.state.channelCalls ++
      if data = utf8 "exit" then []
      else (p.state.dataChannel.map fun cur => .send cur (utf8 "Echo of: " ++ data)).toList := by
  have state : q.state = final ((onMessage data).run p.state) := Process.state_of_step h
  by_cases exit : data = utf8 "exit"
  · rw [exit, run_onMessage_exit] at state
    have kept : Keeps Endpoint.channelCalls stopListening :=
      (keeps_call_of_ignores fun e => channelCalls_log e _ rfl).bind fun _ =>
        keeps_get.bind fun _ => Keeps.ite (keeps_modify fun _ => rfl) (keeps_throw _)
    rw [if_pos exit, List.append_nil, state]
    exact kept p.state
  · rw [run_onMessage_echo exit] at state
    cases current : p.state.dataChannel with
    | none =>
        rw [run_send_null _ current] at state
        simp [exit, state]
    | some cur =>
        rw [run_send _ current] at state
        simp [exit, state, Endpoint.channelCalls, Endpoint.log, Call.isChannelCall]

end Server

/-! ### When the server acts on the right channel -/

section Counts

variable {p q : Process}

theorem successes_eq (p : Process) : successes p = p.state.channelCalls.count .onSuccess :=
  (List.count_filter rfl).symm

theorem closes_eq (p : Process) : closes p = p.state.channelCalls.countP Call.isWsClose := by
  rw [closes, Endpoint.channelCalls, List.countP_filter]
  refine List.countP_congr fun c _ => ?_
  cases c <;> simp [Call.isWsClose, Call.isChannelCall]

theorem channelSends_eq (p : Process) :
    channelSends p = p.state.channelCalls.filterMap Call.sent? := by
  rw [channelSends, Endpoint.channelCalls, List.filterMap_filter]
  refine List.filterMap_congr fun c _ => ?_
  cases c <;> rfl

/-- What new channel calls amount to. -/
theorem counts_of_append {more : List Call}
    (calls : q.state.channelCalls = p.state.channelCalls ++ more) :
    successes q = successes p + more.count .onSuccess ∧
      closes q = closes p + more.countP Call.isWsClose ∧
      channelSends q = channelSends p ++ more.filterMap Call.sent? := by
  rw [successes_eq, closes_eq, channelSends_eq, successes_eq p, closes_eq p, channelSends_eq p,
    calls]
  exact ⟨List.count_append, List.countP_append, List.filterMap_append⟩

end Counts

/-- After a state change the latest channel is open exactly if it was, or if it
is the one that became open. -/
theorem latestOpen_update (e : Endpoint) (dc : DcId) (st : DataState) :
    ({ e with channelState := Function.update e.channelState dc st } : Endpoint).latestOpen ↔
      if e.dataChannel = some dc then st = .open else e.latestOpen := by
  by_cases own : e.dataChannel = some dc
  · simp [Endpoint.latestOpen, own]
  · rw [if_neg own]
    refine exists_congr fun cur => and_congr_right fun current => ?_
    have other : cur ≠ dc := fun eq => own (eq ▸ current)
    simp [other]

/-- A step that neither is a message nor opens a channel acts on the right
channel if it only sends. -/
theorem ActsOnOwnChannel.of_silent {p q : Process} {ev : Event} {more : List Call}
    (opens : ev.opensChannel = false) (other : ∀ dc data, ev ≠ .callback (.message dc data))
    (calls : q.state.channelCalls = p.state.channelCalls ++ more)
    (noSuccess : more.count .onSuccess = 0) (noClose : more.countP Call.isWsClose = 0) :
    ActsOnOwnChannel p ev q := by
  obtain ⟨success, close, -⟩ := counts_of_append calls
  refine ⟨?_, ?_, fun dc data eq => absurd eq (other dc data)⟩
  · rw [success, noSuccess, opens]; rfl
  · rw [close, noClose]; omega

namespace Server

variable {L : JsonLibs} {W : WebRtc} {p q : Process}

theorem acts_of_keeps {ev : Event} (keeps : keepsChannel ev = true)
    (h : Process.step (manager L W) p ev = some q) :
    ActsOnOwnChannel p ev q ∧ FromLatestChannel p ev q := by
  have calls : q.state.channelCalls = p.state.channelCalls ++ [] := by
    rw [channelCalls_of_keeps keeps h, List.append_nil]
  cases ev with
  | callback c =>
      cases c with
      | stateChange dc st => cases keeps
      | message dc data => cases keeps
      | _ => exact ⟨.of_silent rfl (by simp) calls rfl rfl, trivial⟩
  | line text => cases keeps
  | _ => exact ⟨.of_silent rfl (by simp) calls rfl rfl, trivial⟩

/-- A line is sent on the latest channel, if there is one. -/
theorem acts_line {text : Bytes} (h : Process.step (manager L W) p (.line text) = some q) :
    ActsOnOwnChannel p (.line text) q := by
  have state : q.state = final ((send text).run p.state) := Process.state_of_step h
  cases current : p.state.dataChannel with
  | none =>
      rw [run_send_null _ current] at state
      have calls : q.state.channelCalls = p.state.channelCalls ++ [] := by simp [state]
      exact .of_silent rfl (by simp) calls rfl rfl
  | some cur =>
      rw [run_send _ current] at state
      have calls : q.state.channelCalls = p.state.channelCalls ++ [.send cur text] := by
        simp [state, Endpoint.channelCalls, Endpoint.log, Call.isChannelCall]
      exact .of_silent rfl (by simp) calls rfl rfl

theorem acts_stateChange_iff {dc : DcId} {st : DataState}
    (h : Process.step (manager L W) p (.callback (.stateChange dc st)) = some q) :
    ActsOnOwnChannel p (.callback (.stateChange dc st)) q ↔
      FromLatestChannel p (.callback (.stateChange dc st)) q := by
  have condition : FromLatestChannel p (.callback (.stateChange dc st)) q ↔
      (({ p.state with channelState := Function.update p.state.channelState dc st } :
        Endpoint).latestOpen ↔ st = .open) := by
    rw [latestOpen_update]
    by_cases own : p.state.dataChannel = some dc <;> simp [FromLatestChannel, own]
  have opens : (Event.callback (.stateChange dc st)).opensChannel = true ↔ st = .open := by
    cases st <;> simp [Event.opensChannel]
  rw [condition]
  obtain ⟨isOpen, closing, shape, calls⟩ | ⟨notOpen, calls⟩ := channelCalls_stateChange h
  · obtain ⟨success, close, -⟩ := counts_of_append calls
    have once : successes q = successes p + 1 := by
      rw [success]
      obtain rfl | ⟨hdl, rfl⟩ := shape <;> rfl
    have atMostOnce : closes q ≤ closes p + 1 := by
      rw [close]
      obtain rfl | ⟨hdl, rfl⟩ := shape <;> simp [Call.isWsClose]
    by_cases opening : st = .open
    · exact iff_of_true
        ⟨by rw [if_pos (opens.mpr opening), once], by rwa [if_pos (opens.mpr opening)],
          fun _ _ eq => by simp at eq⟩
        (iff_of_true isOpen opening)
    · refine iff_of_false (fun acts => ?_) fun iff => opening (iff.mp isOpen)
      have none := acts.1
      rw [once, if_neg (mt opens.mp opening)] at none
      omega
  · have calls' : q.state.channelCalls = p.state.channelCalls ++ [] := by
      rw [calls, List.append_nil]
    by_cases opening : st = .open
    · refine iff_of_false (fun acts => ?_) fun iff => notOpen (iff.mpr opening)
      have one := acts.1
      rw [(counts_of_append calls').1, if_pos (opens.mpr opening), List.count_nil] at one
      omega
    · refine iff_of_true (.of_silent ?_ (by simp) calls' rfl rfl) (iff_of_false notOpen opening)
      simpa using mt opens.mp opening

theorem acts_message_iff {dc : DcId} {data : Bytes}
    (h : Process.step (manager L W) p (.callback (.message dc data)) = some q) :
    ActsOnOwnChannel p (.callback (.message dc data)) q ↔
      FromLatestChannel p (.callback (.message dc data)) q := by
  obtain ⟨success, close, sends⟩ := counts_of_append (channelCalls_message h)
  by_cases exit : data = utf8 "exit"
  · refine iff_of_true ⟨?_, ?_, ?_⟩ (.inr exit)
    · simpa [exit, Event.opensChannel] using success
    · simp [close, exit]
    · rintro _ _ ⟨⟩ different
      exact absurd exit different
  · -- only the echo is at stake: nothing but a send is called
    have noSuccess : successes q = successes p := by
      rw [success]
      cases p.state.dataChannel <;> simp [exit]
    have noClose : closes q = closes p := by
      rw [close]
      cases p.state.dataChannel <;> simp [exit, Call.isWsClose]
    have echo : channelSends q = channelSends p ++
        (p.state.dataChannel.map fun cur => (cur, utf8 "Echo of: " ++ data)).toList := by
      rw [sends]
      cases p.state.dataChannel <;> simp [exit, Call.sent?]
    constructor
    · rintro ⟨-, -, echoes⟩
      have same := (echoes dc data rfl exit).symm.trans echo
      refine .inl ?_
      cases current : p.state.dataChannel with
      | none => simp [current] at same
      | some cur => simpa [current, eq_comm] using same
    · rintro (own | isExit)
      · refine ⟨noSuccess, by simp [noClose], ?_⟩
        rintro _ _ ⟨⟩ -
        simpa [own] using echo
      · exact absurd isExit exit

/-- One step of the server: it acts on the right channel exactly under the
condition. -/
theorem acts_iff {ev : Event} (h : Process.step (manager L W) p ev = some q) :
    ActsOnOwnChannel p ev q ↔ FromLatestChannel p ev q := by
  by_cases keeps : keepsChannel ev = true
  · obtain ⟨acts, condition⟩ := acts_of_keeps keeps h
    exact iff_of_true acts condition
  · cases ev with
    | line text => exact iff_of_true (acts_line h) trivial
    | callback c =>
        cases c with
        | stateChange dc st => exact acts_stateChange_iff h
        | message dc data => exact acts_message_iff h
        | _ => exact absurd rfl keeps
    | _ => exact absurd rfl keeps

end Server

/-- In every run of the server, each step acts on the channel that raised its
event exactly if each event comes from the latest channel, or is one for which
the latest channel answers alike. -/
theorem acts_on_own_channel_iff (L : JsonLibs) (W : WebRtc) (es : List Event) :
    (Process.machine (Server.manager L W)).EachStep ActsOnOwnChannel Process.initial es ↔
      (Process.machine (Server.manager L W)).EachStep FromLatestChannel Process.initial es :=
  Automaton.EachStep.congr (I := fun _ => True) (fun _ _ _ _ _ => trivial)
    (fun _ _ _ _ h => Server.acts_iff h) trivial

/-- One peer opens two channels. -/
def Server.twoChannels : List Event :=
  [.wsOpen 0, .wsMessage 0 (offerMessage .reference (utf8 "v=0")), .callback (.dataChannel 0),
    .callback (.dataChannel 0)]

/-- When the first of two channels becomes open, nobody is told; and a message on
the first is echoed on the second. -/
theorem first_of_two_channels :
    ¬ (Process.machine (Server.manager .reference .reference)).EachStep ActsOnOwnChannel
        Process.initial (Server.twoChannels ++ [.callback (.stateChange 0 .open)]) ∧
      ¬ (Process.machine (Server.manager .reference .reference)).EachStep ActsOnOwnChannel
        Process.initial (Server.twoChannels ++ [.callback (.message 0 (utf8 "hi"))]) := by
  constructor
  · have checked : ((Process.machine (Server.manager .reference .reference)).run
        Server.twoChannels).any (fun s =>
          ((Process.machine (Server.manager .reference .reference)).step s
            (.callback (.stateChange 0 .open))).any fun t =>
              successes t == successes s) = true := by
      decide +kernel
    obtain ⟨s, t, run, step, same⟩ := Automaton.exists_of_lastStep checked
    intro each
    have acts := (each.last run step).1
    rw [eq_of_beq same] at acts
    exact absurd acts (by simp [Event.opensChannel])
  · have checked : ((Process.machine (Server.manager .reference .reference)).run
        Server.twoChannels).any (fun s =>
          ((Process.machine (Server.manager .reference .reference)).step s
            (.callback (.message 0 (utf8 "hi")))).any fun t =>
              channelSends t == channelSends s ++ [(1, utf8 "Echo of: hi")]) = true := by
      decide +kernel
    obtain ⟨s, t, run, step, echo⟩ := Automaton.exists_of_lastStep checked
    intro each
    have acts := (each.last run step).2.2 0 (utf8 "hi") rfl (by decide)
    rw [eq_of_beq echo] at acts
    simp at acts

end WebrtcSample
