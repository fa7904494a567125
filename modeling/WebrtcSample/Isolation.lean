import WebrtcSample.Server

/-!
Several clients at one server.

The server keeps one handle and one peer connection. Every WebSocket handler
overwrites the handle and every offer replaces the peer connection, so a callback
answers to whichever handler ran last and a description goes to the latest peer
connection (`session_isolation`). As long as the handlers since an offer are those
of its own connection, that is the right one; with a second client in between it
is not (`second_client`).
-/

namespace WebrtcSample

open Prog Effect WebRtcManager

/-! ### libwebrtc's objects -/

/-- The part of an endpoint that says which objects there are and whose they
are. -/
structure Objects where
  peerConnection : Option PcId
  peers : Nat
  requests : List PcId
  described : List PcId
  observed : List DcId
  channelPeer : DcId → PcId

def Endpoint.objects (e : Endpoint) : Objects :=
  ⟨e.peerConnection, e.peers, e.requests, e.described, e.observed, e.channelPeer⟩

/-- Every object that can still call back belongs to a peer connection that was
created. -/
structure Objects.Owned (o : Objects) : Prop where
  requests : ∀ pc ∈ o.requests, pc < o.peers
  described : ∀ pc ∈ o.described, pc < o.peers
  observed : ∀ dc ∈ o.observed, o.channelPeer dc < o.peers

/-- The pointer names the latest peer connection. -/
def Objects.Latest (o : Objects) : Prop := ∀ pc, pc + 1 = o.peers → o.peerConnection = some pc

theorem Objects.Latest.current {o : Objects} (latest : o.Latest) {pc : PcId} (some : pc < o.peers) :
    ∃ cur, cur + 1 = o.peers ∧ o.peerConnection = .some cur := by
  obtain ⟨cur, eq⟩ := Nat.exists_eq_add_one_of_ne_zero (Nat.ne_of_gt (Nat.zero_lt_of_lt some))
  exact ⟨cur, eq.symm, latest cur eq.symm⟩

theorem Objects.Owned.mono {o : Objects} (owned : o.Owned) (pc : Option PcId) {peers : Nat}
    (more : o.peers ≤ peers) :
    ({ o with peerConnection := pc, peers := peers } : Objects).Owned :=
  ⟨fun pc' mem => (owned.requests pc' mem).trans_le more,
    fun pc' mem => (owned.described pc' mem).trans_le more,
    fun dc mem => (owned.observed dc mem).trans_le more⟩

theorem Objects.Owned.erase {o : Objects} (owned : o.Owned) (pc : PcId) :
    ({ o with requests := o.requests.erase pc } : Objects).Owned :=
  ⟨fun pc' mem => owned.requests pc' (List.mem_of_mem_erase mem), owned.described, owned.observed⟩

/-- The peer connection that raises a callback. -/
def Callback.peer (e : Endpoint) : Callback → PcId
  | sdpCreated pc _ => pc
  | sdpFailed pc => pc
  | iceCandidate pc _ => pc
  | dataChannel pc => pc
  | stateChange dc _ => e.channelPeer dc
  | message dc _ => e.channelPeer dc

theorem Objects.Owned.peer_lt {e : Endpoint} {c : Callback} (owned : e.objects.Owned)
    (enabled : c.enabled e = true) : c.peer e < e.peers := by
  cases c <;> simp only [Callback.enabled, decide_eq_true_eq] at enabled
  case sdpCreated pc desc => exact owned.requests pc enabled
  case sdpFailed pc => exact owned.requests pc enabled
  case iceCandidate pc candidate => exact owned.described pc enabled
  case dataChannel pc => exact enabled
  case stateChange dc st => exact owned.observed dc enabled.1
  case message dc data => exact owned.observed dc enabled

/-- The factory returned null and the check of `create_answer_sdp` ended the
process. -/
def Process.NoPeer (p : Process) : Prop :=
  p.phase = .aborted .exitFailure ∧ p.state.calls.getLast? = some (.createPeerConnection none)

namespace Server

variable {L : JsonLibs} {W : WebRtc} {p q : Process} {ev : Event}

theorem objects_log (e : Endpoint) (c : Call) : (e.log c).objects = e.objects := rfl

/-- A message leaves the objects alone, or is an offer that yields a peer
connection with a request for its answer, or ends the process. -/
theorem objects_message {hdl : Hdl} {payload : Bytes}
    (h : Process.step (manager L W) p (.wsMessage hdl payload) = some q) :
    q.state.objects = p.state.objects ∨
      (q.phase = p.phase ∧ q.state.objects =
        { p.state.objects with
          peerConnection := some p.state.peers
          peers := p.state.peers + 1
          requests := p.state.requests ++ [p.state.peers] }) ∨
      (q.phase.alive = false ∧ ∃ pc peers, p.state.peers ≤ peers ∧ peers ≤ p.state.peers + 1 ∧
        q.state.objects = { p.state.objects with peerConnection := pc, peers := peers } ∧
        (pc = none → q.NoPeer)) := by
  cases read : request L payload with
  | ok r =>
      cases r with
      | sdp sdp =>
          rcases offer_cases read h with
            ⟨desc, -, phase, state⟩ | ⟨phase, state⟩ | ⟨phase, state⟩
          · exact .inr (.inl ⟨phase, by rw [state]; rfl⟩)
          · exact .inr (.inr ⟨by rw [phase]; rfl, none, p.state.peers, le_rfl, Nat.le_succ _,
              by rw [state]; rfl, fun _ => ⟨phase, by rw [state]; exact List.getLast?_concat⟩⟩)
          · exact .inr (.inr ⟨by rw [phase]; rfl, some p.state.peers, p.state.peers + 1,
              Nat.le_succ _, le_rfl, by rw [state]; rfl, fun null => by cases null⟩)
      | ice ice =>
          refine .inl ?_
          rw [Process.state_of_step h]
          show (final ((messageHandler L W hdl payload).run p.state)).objects = _
          rw [run_messageHandler, read]
          exact keeps_pushIce_of_ignores (fun e c _ => objects_log e c) _ _
  | error what =>
      refine .inl ?_
      rw [Process.state_of_step h]
      show (final ((messageHandler L W hdl payload).run p.state)).objects = _
      rw [run_messageHandler, read]
      rfl

/-- What the other events do to the objects. -/
theorem objects_callback {c : Callback}
    (h : Process.step (manager L W) p (.callback c) = some q) :
    q.state.objects =
      match c with
      | .sdpCreated pc _ =>
          { p.state.objects with
            requests := p.state.requests.erase pc
            described := p.state.described ++ p.state.peerConnection.toList }
      | .sdpFailed pc => { p.state.objects with requests := p.state.requests.erase pc }
      | .dataChannel pc =>
          { p.state.objects with
            observed := p.state.observed ++ [p.state.channels]
            channelPeer := Function.update p.state.channelPeer p.state.channels pc }
      | _ => p.state.objects := by
  have ignores : ∀ e c, c.isPlain = true → (Endpoint.log e c).objects = e.objects :=
    fun e c _ => objects_log e c
  have state := Process.state_of_step h
  cases c with
  | sdpCreated pc desc =>
      let e : Endpoint := { p.state with requests := p.state.requests.erase pc }
      have state' : q.state = final ((Connection.onSuccessCsd (callbacks L) desc).run e) := state
      cases current : p.state.peerConnection with
      | none =>
          have null : e.peerConnection = none := current
          rw [state', Connection.run_onSuccessCsd_null _ _ null]
          simp [Endpoint.objects, e]
      | some cur =>
          have set : e.peerConnection = some cur := current
          rw [state', Connection.run_onSuccessCsd _ _ set]
          exact keeps_wsSend_of_ignores ignores (fun _ _ => rfl) _ _
  | sdpFailed pc => rw [state]; rfl
  | iceCandidate pc candidate =>
      rw [state]
      exact keeps_reportIce_of_ignores ignores (fun _ _ => rfl) (fun _ _ => rfl) _ p.state
  | dataChannel pc => rw [state]; rfl
  | stateChange dc st =>
      rw [state]
      exact keeps_onStateChange_of_ignores (fun e => objects_log e _)
        (keeps_onSuccess_of_ignores (fun e _ => objects_log e _) (fun e _ => objects_log e _)
          fun _ _ => rfl) _
  | message dc data =>
      rw [state]
      exact keeps_onMessage_of_ignores objects_log (fun _ _ => rfl) _ p.state

/-- The other threads create no object; only `quit` gives up the pointer. -/
theorem objects_other (noMessage : ∀ hdl payload, ev ≠ .wsMessage hdl payload)
    (noCallback : ∀ c, ev ≠ .callback c) (h : Process.step (manager L W) p ev = some q) :
    ∃ pc, q.state.objects = { p.state.objects with peerConnection := pc } ∧
      (ev ≠ .quit → pc = p.state.peerConnection) := by
  have state := Process.state_of_step h
  cases ev with
  | wsMessage hdl payload => exact absurd rfl (noMessage hdl payload)
  | callback c => exact absurd rfl (noCallback c)
  | line text =>
      refine ⟨p.state.peerConnection, ?_, fun _ => rfl⟩
      rw [state]
      exact keeps_send_of_ignores objects_log text p.state
  | quit =>
      refine ⟨none, ?_, fun other => absurd rfl other⟩
      cases current : p.state.peerConnection with
      | none =>
          obtain ⟨state, -⟩ := Process.step_error h (run_quit_null current)
          rw [state, ← current]
          rfl
      | some cur =>
          obtain ⟨state, -⟩ := Process.step_ok h (run_quit current)
          rw [state]
          rfl
  | _ => exact ⟨p.state.peerConnection, by rw [state]; rfl, fun _ => rfl⟩

/-- **The server's objects, in every reachable state.** -/
structure Holds (p : Process) : Prop where
  owned : p.state.objects.Owned
  latest : p.phase.alive = true → p.state.objects.Latest

theorem holds_initial : Holds Process.initial :=
  ⟨⟨by simp [Process.initial, Endpoint.initial, Endpoint.objects],
      by simp [Process.initial, Endpoint.initial, Endpoint.objects],
      by simp [Process.initial, Endpoint.initial, Endpoint.objects]⟩,
    fun _ pc eq => by simp [Process.initial, Endpoint.initial, Endpoint.objects] at eq⟩

theorem Holds.message (inv : Holds p) {hdl : Hdl} {payload : Bytes}
    (h : Process.step (manager L W) p (.wsMessage hdl payload) = some q) : Holds q := by
  have latest := inv.latest (Process.alive_of_step h)
  rcases objects_message h with same | ⟨-, objects⟩ | ⟨dead, pc, peers, more, -, objects, -⟩
  · exact ⟨same ▸ inv.owned, fun _ => same ▸ latest⟩
  · have grown := inv.owned.mono (some p.state.peers) (Nat.le_succ p.state.peers)
    refine ⟨objects ▸ ⟨?_, grown.described, grown.observed⟩, fun _ => objects ▸ ?_⟩
    · intro pc mem
      rcases List.mem_append.mp mem with old | new
      · exact grown.requests pc old
      · rw [List.mem_singleton.mp new]
        exact Nat.lt_succ_self _
    · intro pc eq
      rw [Nat.succ.inj eq]
  · exact ⟨objects ▸ inv.owned.mono pc more, fun alive => by rw [dead] at alive; cases alive⟩

theorem Holds.callback (inv : Holds p) {c : Callback}
    (h : Process.step (manager L W) p (.callback c) = some q) : Holds q := by
  have latest := inv.latest (Process.alive_of_step h)
  have below := inv.owned.peer_lt (Process.callback_enabled h)
  have objects := objects_callback h
  cases c with
  | sdpCreated pc desc =>
      have erased := inv.owned.erase pc
      refine ⟨objects ▸ ⟨erased.requests, ?_, erased.observed⟩, fun _ => objects ▸ latest⟩
      intro pc' mem
      rcases List.mem_append.mp mem with old | new
      · exact inv.owned.described pc' old
      · -- a new entry is the current peer connection, the latest of those created
        obtain ⟨cur, last, current⟩ := latest.current below
        have set : p.state.peerConnection = some cur := current
        rw [set, Option.toList_some, List.mem_singleton] at new
        rw [new]
        exact Nat.lt_of_succ_le last.le
  | sdpFailed pc => exact ⟨objects ▸ inv.owned.erase pc, fun _ => objects ▸ latest⟩
  | dataChannel pc =>
      refine ⟨objects ▸ ⟨inv.owned.requests, inv.owned.described, ?_⟩, fun _ => objects ▸ latest⟩
      intro dc mem
      show Function.update p.state.channelPeer p.state.channels pc dc < p.state.peers
      by_cases new : dc = p.state.channels
      · rw [new, Function.update_self]
        exact below
      · rw [Function.update_of_ne new]
        refine inv.owned.observed dc ((List.mem_append.mp mem).resolve_right fun last => ?_)
        exact new (List.mem_singleton.mp last)
  | _ => exact ⟨objects ▸ inv.owned, fun _ => objects ▸ latest⟩

/-- The invariant survives every step of the server. -/
theorem Holds.step (inv : Holds p) (h : Process.step (manager L W) p ev = some q) : Holds q := by
  by_cases message : ∃ hdl payload, ev = .wsMessage hdl payload
  · obtain ⟨hdl, payload, rfl⟩ := message
    exact inv.message h
  by_cases callback : ∃ c, ev = .callback c
  · obtain ⟨c, rfl⟩ := callback
    exact inv.callback h
  push Not at message callback
  obtain ⟨pc, objects, pointer⟩ := objects_other message callback h
  refine ⟨objects ▸ inv.owned.mono pc le_rfl, fun alive => objects ▸ ?_⟩
  rw [pointer (Process.ne_quit_of_alive h alive)]
  exact inv.latest (Process.alive_of_step h)

/-- Every handler stores its connection first. -/
theorem wsHdl_of_step (h : Process.step (manager L W) p ev = some q) :
    q.state.wsHdl = ev.hdl?.or p.state.wsHdl := by
  rw [Process.state_of_step h]
  cases ev with
  | wsMessage hdl payload =>
      exact final_messageHandler_of_ignores (f := Endpoint.wsHdl) (fun _ _ _ => rfl)
        (fun _ _ _ => rfl) (fun _ _ => rfl) hdl payload p.state
  | callback c =>
      cases c with
      | sdpCreated pc desc =>
          exact keeps_onSuccessCsd_of_ignores (f := Endpoint.wsHdl) (fun _ _ _ => rfl)
            (fun _ _ => rfl) (keeps_wsSend_of_ignores (fun _ _ _ => rfl) (fun _ _ => rfl) _) _
      | iceCandidate pc candidate =>
          exact keeps_reportIce_of_ignores (f := Endpoint.wsHdl) (fun _ _ _ => rfl)
            (fun _ _ => rfl) (fun _ _ => rfl) _ _
      | stateChange dc st =>
          exact keeps_onStateChange_of_ignores (f := Endpoint.wsHdl) (fun _ => rfl)
            (keeps_onSuccess_of_ignores (fun _ _ => rfl) (fun _ _ => rfl) fun _ _ => rfl) _
      | message dc data =>
          exact keeps_onMessage_of_ignores (f := Endpoint.wsHdl) (fun _ _ => rfl)
            (fun _ _ => rfl) _ _
      | _ => rfl
  | line text => exact keeps_send_of_ignores (f := Endpoint.wsHdl) (fun _ _ => rfl) text p.state
  | quit => exact keeps_quit_of_ignores (f := Endpoint.wsHdl) (fun _ _ _ => rfl) (fun _ => rfl) _
  | _ => rfl

/-- Only a message creates a peer connection, one at a time. -/
theorem peers_of_step (h : Process.step (manager L W) p ev = some q) :
    q.state.peers = p.state.peers ∨
      q.state.peers = p.state.peers + 1 ∧ ∃ hdl, ev.hdl? = some hdl := by
  by_cases message : ∃ hdl payload, ev = .wsMessage hdl payload
  · obtain ⟨hdl, payload, rfl⟩ := message
    have peers : q.state.peers = q.state.objects.peers := rfl
    rcases objects_message h with same | ⟨-, objects⟩ | ⟨-, pc, n, more, atMost, objects, -⟩
    · exact .inl (peers.trans (congrArg Objects.peers same))
    · exact .inr ⟨peers.trans (congrArg Objects.peers objects), hdl, rfl⟩
    · have n_eq := peers.trans (congrArg Objects.peers objects)
      rcases Nat.lt_or_ge p.state.peers n with grown | kept
      · exact .inr ⟨by rw [n_eq]; exact le_antisymm atMost grown, hdl, rfl⟩
      · exact .inl (by rw [n_eq]; exact le_antisymm kept more)
  refine .inl (?_ : q.state.objects.peers = p.state.objects.peers)
  by_cases callback : ∃ c, ev = .callback c
  · obtain ⟨c, rfl⟩ := callback
    rw [objects_callback h]
    cases c <;> rfl
  push Not at message callback
  obtain ⟨pc, objects, -⟩ := objects_other message callback h
  rw [objects]

end Server

/-! ### Who is told -/

/-- The connection whose handler ran last. -/
def lastHandler (es : List Event) : Option Hdl := (es.filterMap Event.hdl?).getLast?

theorem lastHandler_concat (es : List Event) (ev : Event) :
    lastHandler (es ++ [ev]) = ev.hdl?.or (lastHandler es) := by
  unfold lastHandler
  rw [List.filterMap_append]
  cases hdl : ev.hdl? <;> simp [hdl]

/-- Since peer connection `pc` exists, no handler has run but those of the
connection whose offer created it. -/
def Undisturbed (A : Automaton Process Event) (es : List Event) (p : Process) (pc : PcId) : Prop :=
  ∀ before after mid, es = before ++ after → A.run before = some mid → pc < mid.state.peers →
    ∀ ev ∈ after, ∀ hdl, ev.hdl? = some hdl → p.creator pc = some hdl

/-- The connection a WebSocket call is made on. -/
def Call.target? : Call → Option (Option Hdl)
  | .wsSend hdl _ => some hdl
  | .pauseReading hdl => some hdl
  | .wsClose hdl => some hdl
  | _ => none

/-- A description and the peer connection it is applied to. -/
def Call.described? : Call → Option (PcId × SessionDescription)
  | .setLocalDescription pc desc => some (pc, desc)
  | _ => none

/-- The calls of one step. -/
def newCalls (p q : Process) : List Call := q.state.calls.drop p.state.calls.length

/-- The connections that a step sends to or closes. -/
def targets (p q : Process) : List (Option Hdl) := (newCalls p q).filterMap Call.target?

/-- The descriptions that a step applies, and to which peer connections. -/
def descriptions (p q : Process) : List (PcId × SessionDescription) :=
  (newCalls p q).filterMap Call.described?

theorem newCalls_eq {p q : Process} {more : List Call}
    (calls : q.state.calls = p.state.calls ++ more) : newCalls p q = more := by
  rw [newCalls, calls, List.drop_left]

namespace Server

variable (L : JsonLibs) (W : WebRtc)

/-- What the handle and the creators have to do with the handlers that ran. -/
structure Handled (es : List Event) (p : Process) : Prop where
  run : (Process.machine (manager L W)).run es = some p
  last : p.state.wsHdl = lastHandler es
  own : ∀ pc < p.state.peers, Undisturbed (Process.machine (manager L W)) es p pc →
    p.state.wsHdl = p.creator pc
  created : ∀ pc < p.state.peers, ∃ ev ∈ es, ∃ hdl, ev.hdl? = some hdl ∧ p.creator pc = some hdl

variable {L W} {p q : Process} {ev : Event} {es : List Event}

theorem Handled.step (inv : Handled L W es p) (h : Process.step (manager L W) p ev = some q) :
    Handled L W (es ++ [ev]) q := by
  have wsHdl := wsHdl_of_step h
  have creator := Process.creator_of_step h
  have same : ∀ pc < p.state.peers, q.creator pc = p.creator pc := by
    intro pc old
    rw [creator]
    split
    · exact Function.update_of_ne (Nat.ne_of_lt old) _ _
    · rfl
  -- a new peer connection is the step's own, so its creator is the handler that ran
  have new : ∀ pc < q.state.peers, ¬ pc < p.state.peers →
      q.creator pc = ev.hdl? ∧ ∃ hdl, ev.hdl? = some hdl := by
    intro pc below fresh
    rcases peers_of_step h with kept | ⟨grown, handler⟩
    · exact absurd (kept ▸ below) fresh
    · have eq : pc = p.state.peers := by omega
      refine ⟨?_, handler⟩
      rw [creator, if_pos (by omega), eq, Function.update_self]
  refine ⟨Automaton.run_concat inv.run h, by rw [wsHdl, lastHandler_concat, inv.last], ?_, ?_⟩
  · intro pc below undisturbed
    by_cases old : pc < p.state.peers
    · rw [same pc old, wsHdl]
      cases hdl : ev.hdl? with
      | some hdl' =>
          have own := undisturbed es [ev] p rfl inv.run old ev List.mem_cons_self hdl' hdl
          rw [← same pc old, own, Option.some_or]
      | none =>
          rw [Option.none_or]
          refine inv.own pc old fun before after mid split ran made e mem hdl' eq => ?_
          rw [← same pc old]
          exact undisturbed before (after ++ [ev]) mid (by rw [split, List.append_assoc]) ran made
            e (List.mem_append_left _ mem) hdl' eq
    · obtain ⟨own, hdl, handler⟩ := new pc below old
      rw [own, wsHdl, handler, Option.some_or]
  · intro pc below
    by_cases old : pc < p.state.peers
    · obtain ⟨e, mem, hdl, handler, eq⟩ := inv.created pc old
      exact ⟨e, List.mem_append_left _ mem, hdl, handler, (same pc old).trans eq⟩
    · obtain ⟨own, hdl, handler⟩ := new pc below old
      exact ⟨ev, by simp, hdl, handler, own.trans handler⟩

theorem handled_of_run (run : (Process.machine (manager L W)).run es = some p) :
    Handled L W es p :=
  Automaton.run_history (I := Handled L W)
    ⟨rfl, rfl, fun _ below => absurd below (Nat.not_lt_zero _),
      fun _ below => absurd below (Nat.not_lt_zero _)⟩ (fun _ _ _ _ inv h => inv.step h) run

/-- When every handler is of one connection, that connection created every peer
connection. -/
theorem Handled.creator_of_single (handled : Handled L W es p) {hdl : Hdl}
    (single : ∀ ev ∈ es, ∀ other, ev.hdl? = some other → other = hdl) {pc : PcId}
    (below : pc < p.state.peers) :
    p.creator pc = some hdl ∧ Undisturbed (Process.machine (manager L W)) es p pc := by
  obtain ⟨ev, mem, other, handler, creator⟩ := handled.created pc below
  rw [single ev mem other handler] at creator
  refine ⟨creator, fun before after mid split _ _ ev' mem' other' handler' => ?_⟩
  rw [creator, single ev' (split ▸ List.mem_append_right _ mem') other' handler']

/-- The connection of the last handler is open. -/
def lastOpen (es : List Event) (p : Process) : Bool :=
  (lastHandler es).any fun hdl => p.state.conns hdl = .open

/-- The latest channel is open once `dc` has moved to this state. -/
def latestOpens (e : Endpoint) (dc : DcId) (st : DataState) : Bool :=
  e.dataChannel.any fun cur => Function.update e.channelState dc st cur = .open

/-- A description is applied to the current peer connection and sent. -/
theorem calls_sdpCreated {pc cur : PcId} {desc : SessionDescription}
    (current : p.state.peerConnection = some cur)
    (h : Process.step (manager L W) p (.callback (.sdpCreated pc desc)) = some q) :
    q.state.calls = p.state.calls ++ [.setLocalDescription cur desc,
        .wsSend p.state.wsHdl (answerMessage L (utf8 desc.text))] ∧
      q.state.outbox = p.state.outbox ++
        if p.state.isOpen then [answerMessage L (utf8 desc.text)] else [] := by
  let e : Endpoint := { p.state with requests := p.state.requests.erase pc }
  have set : e.peerConnection = some cur := current
  have state : q.state = final ((Connection.onSuccessCsd (callbacks L) desc).run e) :=
    Process.state_of_step h
  rw [state, Connection.run_onSuccessCsd _ _ set]
  show (final ((wsSend _).run _)).calls = _ ∧ (final ((wsSend _).run _)).outbox = _
  rw [final_wsSend]
  exact ⟨List.append_assoc _ _ _, rfl⟩

/-- A candidate is sent. -/
theorem calls_iceCandidate {pc : PcId} {candidate : IceCandidate}
    (h : Process.step (manager L W) p (.callback (.iceCandidate pc candidate)) = some q) :
    q.state.calls = p.state.calls ++
        [.wsSend p.state.wsHdl ((Connection.toIce candidate).toJsonString L)] ∧
      q.state.outbox = p.state.outbox ++
        if p.state.isOpen then [(Connection.toIce candidate).toJsonString L] else [] := by
  have state : q.state = final ((reportIce L (Connection.toIce candidate)).run p.state) :=
    Process.state_of_step h
  rw [state, run_reportIce, final_wsSend]
  exact ⟨rfl, rfl⟩

/-- A state change that leaves the latest channel open makes the server close the
connection. -/
theorem calls_stateChange {dc : DcId} {st : DataState}
    (h : Process.step (manager L W) p (.callback (.stateChange dc st)) = some q) :
    q.state.calls = p.state.calls ++
        (if latestOpens p.state dc st then .onSuccess :: closeCalls p.state else []) ∧
      ∀ hdl, p.state.wsHdl = some hdl → p.state.conns hdl = .open →
        latestOpens p.state dc st = true → q.state.conns hdl = .closing := by
  let e : Endpoint :=
    { p.state with channelState := Function.update p.state.channelState dc st }
  have state : q.state = final ((Connection.onStateChange (callbacks L)).run e) :=
    Process.state_of_step h
  cases current : p.state.dataChannel with
  | none =>
      have null : e.dataChannel = none := current
      rw [state, Connection.run_onStateChange_null _ null]
      simp [latestOpens, current, e]
  | some cur =>
      have set : e.dataChannel = some cur := current
      have opens : latestOpens p.state dc st = decide (e.channelState cur = .open) := by
        simp [latestOpens, current, e]
      rw [Connection.run_onStateChange _ set] at state
      rw [opens]
      by_cases isOpen : e.channelState cur = .open
      · rw [if_pos isOpen] at state
        rw [if_pos (decide_eq_true isOpen)]
        have state' : q.state = final (onSuccess.run (e.log .onSuccess)) := state
        refine ⟨?_, fun hdl stored up _ => ?_⟩
        · rw [state', calls_onSuccess]
          exact List.append_assoc _ _ _
        · have run := run_onSuccess (e := e.log .onSuccess) stored up
          rw [state', run]
          exact Function.update_self ..
      · rw [if_neg isOpen] at state
        rw [if_neg (by simpa using isOpen), List.append_nil, state]
        exact ⟨rfl, fun _ _ _ opens => absurd (of_decide_eq_true opens) isOpen⟩

/-- A message calls on no connection. -/
theorem calls_message {dc : DcId} {data : Bytes}
    (h : Process.step (manager L W) p (.callback (.message dc data)) = some q) :
    ∃ more, q.state.calls = p.state.calls ++ more ∧ more.filterMap Call.target? = [] := by
  have state : q.state = final ((onMessage data).run p.state) := Process.state_of_step h
  by_cases exit : data = utf8 "exit"
  · refine ⟨[.stopListening], ?_, rfl⟩
    rw [state, exit, run_onMessage_exit, run_stopListening]
    split <;> rfl
  · rw [run_onMessage_echo exit] at state
    cases current : p.state.dataChannel with
    | none => exact ⟨[], by rw [state, run_send_null _ current, List.append_nil]; rfl, rfl⟩
    | some cur => exact ⟨[_], by rw [state, run_send _ current]; rfl, rfl⟩

/-- Nothing else calls on a connection. -/
theorem targets_eq_nil {c : Callback} (noAnswer : ∀ pc desc, c ≠ .sdpCreated pc desc)
    (noCandidate : ∀ pc candidate, c ≠ .iceCandidate pc candidate)
    (shut : ∀ dc st, c = .stateChange dc st → latestOpens p.state dc st = false)
    (h : Process.step (manager L W) p (.callback c) = some q) : targets p q = [] := by
  have state := Process.state_of_step h
  unfold targets
  cases c with
  | sdpCreated pc desc => exact absurd rfl (noAnswer pc desc)
  | iceCandidate pc candidate => exact absurd rfl (noCandidate pc candidate)
  | stateChange dc st =>
      rw [newCalls_eq (calls_stateChange h).1, shut dc st rfl]
      rfl
  | message dc data =>
      obtain ⟨more, calls, none⟩ := calls_message h
      rw [newCalls_eq calls, none]
  | sdpFailed pc =>
      have calls : q.state.calls = p.state.calls ++ [] := by rw [state, List.append_nil]; rfl
      rw [newCalls_eq calls]
      rfl
  | dataChannel pc =>
      have calls : q.state.calls = p.state.calls ++ [.registerObserver p.state.channels] := by
        rw [state]; rfl
      rw [newCalls_eq calls]
      rfl

end Server

/-! ### Isolation -/

/-- The session's own connection is told, and the session's own peer connection
is described. -/
def Isolated (p : Process) (ev : Event) (q : Process) : Prop :=
  ∀ c, ev = .callback c →
    (∀ t ∈ targets p q, t = p.creator (c.peer p.state)) ∧
    ∀ pc desc, c = .sdpCreated pc desc → descriptions p q = [(pc, desc)]

/-- What the server makes of a callback after the events `es`. -/
structure Routed (L : JsonLibs) (A : Automaton Process Event) (es : List Event) (p : Process)
    (c : Callback) (q : Process) : Prop where
  /-- An answer is applied to the latest peer connection and sent to the connection
  whose handler ran last, which takes it if it is open. -/
  answer : ∀ pc desc, c = .sdpCreated pc desc →
    newCalls p q = [.setLocalDescription (p.state.peers - 1) desc,
        .wsSend (lastHandler es) (answerMessage L (utf8 desc.text))] ∧
      q.state.outbox = p.state.outbox ++
        if Server.lastOpen es p then [answerMessage L (utf8 desc.text)] else []
  /-- A candidate is sent there. -/
  candidate : ∀ pc candidate, c = .iceCandidate pc candidate →
    newCalls p q =
        [.wsSend (lastHandler es) ((Connection.toIce candidate).toJsonString L)] ∧
      q.state.outbox = p.state.outbox ++
        if Server.lastOpen es p then [(Connection.toIce candidate).toJsonString L] else []
  /-- That connection is closed when the latest channel is found open, unless its
  object is no more; it starts closing if it is open. -/
  closes : ∀ dc st, c = .stateChange dc st → Server.latestOpens p.state dc st = true →
    newCalls p q = .onSuccess :: .pauseReading (lastHandler es) ::
        (if p.state.lost then [] else [.wsClose (lastHandler es)]) ∧
      ∀ hdl, lastHandler es = some hdl → p.state.conns hdl = .open →
        q.state.conns hdl = .closing
  /-- There are no other sends and closes. -/
  others : (∀ pc desc, c ≠ .sdpCreated pc desc) → (∀ pc candidate, c ≠ .iceCandidate pc candidate) →
    (∀ dc st, c = .stateChange dc st → Server.latestOpens p.state dc st = false) →
    targets p q = []
  /-- It is the connection whose offer created the peer connection, unless another
  connection's handler has run since. -/
  own : Undisturbed A es p (c.peer p.state) → lastHandler es = p.creator (c.peer p.state)
  /-- In particular when all handlers are of one connection. -/
  single : ∀ hdl, (∀ ev ∈ es, ∀ other, ev.hdl? = some other → other = hdl) →
    p.creator (c.peer p.state) = some hdl ∧ lastHandler es = some hdl
  /-- The latest peer connection is the one that created a description, unless another
  has been created since. -/
  created : ∀ pc desc, c = .sdpCreated pc desc → p.state.peers = pc + 1 →
    descriptions p q = [(pc, desc)]

/-- **Routing at the server**, for any number of clients and any interleaving of
handlers and callbacks. -/
theorem session_isolation {L : JsonLibs} {W : WebRtc} {es : List Event} {p q : Process}
    {c : Callback} (run : (Process.machine (Server.manager L W)).run es = some p)
    (step : (Process.machine (Server.manager L W)).step p (.callback c) = some q) :
    Routed L (Process.machine (Server.manager L W)) es p c q := by
  have handled := Server.handled_of_run run
  have holds : Server.Holds p :=
    Automaton.Reachable.invariant Server.holds_initial (fun _ _ _ inv h => inv.step h) ⟨es, run⟩
  have below := holds.owned.peer_lt (Process.callback_enabled step)
  have isOpen : p.state.isOpen = Server.lastOpen es p := by
    rw [Server.lastOpen, ← handled.last, Endpoint.isOpen]
    cases p.state.wsHdl <;> rfl
  obtain ⟨cur, last, current⟩ := (holds.latest (Process.alive_of_step step)).current below
  have set : p.state.peerConnection = some cur := current
  have index : p.state.peers - 1 = cur := by
    rw [show p.state.peers = cur + 1 from last.symm, Nat.add_sub_cancel]
  refine
    { answer := ?_
      candidate := ?_
      closes := ?_
      others := fun noAnswer noCandidate shut =>
        Server.targets_eq_nil noAnswer noCandidate shut step
      own := fun undisturbed => handled.last.symm.trans (handled.own _ below undisturbed)
      single := ?_
      created := ?_ }
  · rintro pc desc rfl
    obtain ⟨calls, outbox⟩ := Server.calls_sdpCreated set step
    rw [newCalls_eq calls, index, ← handled.last, ← isOpen]
    exact ⟨rfl, outbox⟩
  · rintro pc candidate rfl
    obtain ⟨calls, outbox⟩ := Server.calls_iceCandidate step
    rw [newCalls_eq calls, ← handled.last, ← isOpen]
    exact ⟨rfl, outbox⟩
  · rintro dc st rfl opens
    obtain ⟨calls, closing⟩ := Server.calls_stateChange step
    rw [newCalls_eq calls, if_pos opens, ← handled.last]
    exact ⟨rfl, fun hdl stored up => closing hdl stored up opens⟩
  · intro hdl single
    obtain ⟨creator, undisturbed⟩ := handled.creator_of_single single below
    exact ⟨creator, by rw [← handled.last, handled.own _ below undisturbed, creator]⟩
  · rintro pc desc rfl alone
    obtain ⟨calls, -⟩ := Server.calls_sdpCreated set step
    rw [descriptions, newCalls_eq calls, ← index, alone, Nat.add_sub_cancel]
    rfl

/-- One client connects and makes an offer. -/
def Server.oneOffer : List Event :=
  [.wsOpen 0, .wsMessage 0 (offerMessage .reference (utf8 "v=0"))]

/-- It gets its answer and opens a channel. -/
def Server.oneChannel : List Event :=
  Server.oneOffer ++ [.callback (.sdpCreated 0 ⟨.answer, "v=0"⟩), .callback (.dataChannel 0)]

/-- The answer goes back to it, a candidate follows, and the connection is closed when
the channel opens. -/
theorem session_isolation_one_client :
    (∃ p q, (Process.machine (Server.manager .reference .reference)).run Server.oneOffer = some p ∧
      (Process.machine (Server.manager .reference .reference)).step p
        (.callback (.sdpCreated 0 ⟨.answer, "v=0"⟩)) = some q ∧
      newCalls p q = [.setLocalDescription 0 ⟨.answer, "v=0"⟩,
        .wsSend (some 0) (answerMessage .reference (utf8 "v=0"))] ∧
      q.state.outbox = [answerMessage .reference (utf8 "v=0")] ∧
      Routed .reference (Process.machine (Server.manager .reference .reference)) Server.oneOffer p
        (.sdpCreated 0 ⟨.answer, "v=0"⟩) q) ∧
    (∃ p q, (Process.machine (Server.manager .reference .reference)).run
        Server.oneChannel = some p ∧
      (Process.machine (Server.manager .reference .reference)).step p
        (.callback (.iceCandidate 0 ⟨"candidate:1", "0", 0⟩)) = some q ∧
      newCalls p q = [.wsSend (some 0)
        ((Connection.toIce ⟨"candidate:1", "0", 0⟩).toJsonString .reference)] ∧
      Routed .reference (Process.machine (Server.manager .reference .reference)) Server.oneChannel p
        (.iceCandidate 0 ⟨"candidate:1", "0", 0⟩) q) ∧
    ∃ p q, (Process.machine (Server.manager .reference .reference)).run
        Server.oneChannel = some p ∧
      (Process.machine (Server.manager .reference .reference)).step p
        (.callback (.stateChange 0 .open)) = some q ∧
      newCalls p q = [.onSuccess, .pauseReading (some 0), .wsClose (some 0)] ∧
      q.state.conns 0 = .closing ∧
      Routed .reference (Process.machine (Server.manager .reference .reference)) Server.oneChannel p
        (.stateChange 0 .open) q := by
  refine ⟨?_, ?_, ?_⟩
  · have checked : ((Process.machine (Server.manager .reference .reference)).run
        Server.oneOffer).any (fun p =>
          ((Process.machine (Server.manager .reference .reference)).step p
            (.callback (.sdpCreated 0 ⟨.answer, "v=0"⟩))).any fun q =>
              newCalls p q = [.setLocalDescription 0 ⟨.answer, "v=0"⟩,
                .wsSend (some 0) (answerMessage .reference (utf8 "v=0"))] ∧
              q.state.outbox = [answerMessage .reference (utf8 "v=0")]) = true := by
      decide +kernel
    obtain ⟨p, q, run, step, facts⟩ := Automaton.exists_of_lastStep checked
    obtain ⟨calls, outbox⟩ := of_decide_eq_true facts
    exact ⟨p, q, run, step, calls, outbox, session_isolation run step⟩
  · have checked : ((Process.machine (Server.manager .reference .reference)).run
        Server.oneChannel).any (fun p =>
          ((Process.machine (Server.manager .reference .reference)).step p
            (.callback (.iceCandidate 0 ⟨"candidate:1", "0", 0⟩))).any fun q =>
              newCalls p q = [.wsSend (some 0)
                ((Connection.toIce ⟨"candidate:1", "0", 0⟩).toJsonString .reference)]) = true := by
      decide +kernel
    obtain ⟨p, q, run, step, calls⟩ := Automaton.exists_of_lastStep checked
    exact ⟨p, q, run, step, of_decide_eq_true calls, session_isolation run step⟩
  · have checked : ((Process.machine (Server.manager .reference .reference)).run
        Server.oneChannel).any (fun p =>
          ((Process.machine (Server.manager .reference .reference)).step p
            (.callback (.stateChange 0 .open))).any fun q =>
              newCalls p q = [.onSuccess, .pauseReading (some 0), .wsClose (some 0)] ∧
              q.state.conns 0 = .closing) = true := by
      decide +kernel
    obtain ⟨p, q, run, step, facts⟩ := Automaton.exists_of_lastStep checked
    obtain ⟨calls, closing⟩ := of_decide_eq_true facts
    exact ⟨p, q, run, step, calls, closing, session_isolation run step⟩

/-- When a second client connects before the answer is created, the answer goes
to the second; when it makes an offer too, the description of the first session
is applied to the peer connection of the second. -/
theorem second_client :
    ¬ (Process.machine (Server.manager .reference .reference)).EachStep Isolated Process.initial
        (Server.oneOffer ++ [.wsOpen 1] ++ [.callback (.sdpCreated 0 ⟨.answer, "v=0"⟩)]) ∧
      ¬ (Process.machine (Server.manager .reference .reference)).EachStep Isolated Process.initial
        (Server.oneOffer ++ [.wsOpen 1, .wsMessage 1 (offerMessage .reference (utf8 "v=0"))] ++
          [.callback (.sdpCreated 0 ⟨.answer, "v=0"⟩)]) := by
  constructor
  · have checked : ((Process.machine (Server.manager .reference .reference)).run
        (Server.oneOffer ++ [.wsOpen 1])).any (fun p =>
          ((Process.machine (Server.manager .reference .reference)).step p
            (.callback (.sdpCreated 0 ⟨.answer, "v=0"⟩))).any fun q =>
              targets p q = [some 1] ∧ p.creator 0 = some 0) = true := by
      decide +kernel
    obtain ⟨p, q, run, step, facts⟩ := Automaton.exists_of_lastStep checked
    obtain ⟨target, creator⟩ := of_decide_eq_true facts
    intro each
    have own := (each.last run step _ rfl).1 (some 1) (by rw [target]; exact List.mem_cons_self)
    rw [show Callback.peer p.state (.sdpCreated 0 _) = 0 from rfl, creator] at own
    cases own
  · have checked : ((Process.machine (Server.manager .reference .reference)).run
        (Server.oneOffer ++ [.wsOpen 1, .wsMessage 1 (offerMessage .reference (utf8 "v=0"))])).any
          (fun p => ((Process.machine (Server.manager .reference .reference)).step p
            (.callback (.sdpCreated 0 ⟨.answer, "v=0"⟩))).any fun q =>
              descriptions p q = [(1, ⟨.answer, "v=0"⟩)]) = true := by
      decide +kernel
    obtain ⟨p, q, run, step, described⟩ := Automaton.exists_of_lastStep checked
    intro each
    have own := (each.last run step _ rfl).2 0 _ rfl
    rw [of_decide_eq_true described] at own
    cases own

end WebrtcSample
