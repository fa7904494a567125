import WebrtcSample.Dialogue

/-!
What the two sides of a session agree on.

The client sends one offer and the server at most one answer; each side parses
exactly the text the other side applied to itself; and a candidate is pushed
only after the other side's description has been applied to the same peer
connection. All of it is read off the invariant of `WebrtcSample.Dialogue`,
together with a count of the descriptions that libwebrtc reported.
-/

namespace WebrtcSample

/-- The description of a `SetLocalDescription`, with its peer connection. -/
def Call.local? : Call → Option (PcId × SessionDescription)
  | .setLocalDescription pc desc => some (pc, desc)
  | _ => none

/-- The SDP of a message that its receiver reads as a description. -/
def Call.sentSdp? (read : Bytes → Throwing Request) : Call → Option Bytes
  | .wsSend _ payload =>
      match read payload with
      | .ok (.sdp sdp) => some sdp
      | _ => none
  | _ => none

/-- The descriptions a program has applied to itself. -/
def localDescriptions (p : Process) : List (PcId × SessionDescription) :=
  p.state.calls.filterMap Call.local?

/-- The SDPs of the offers a program has sent. -/
def offersSent (L : JsonLibs) (p : Process) : List Bytes :=
  p.state.calls.filterMap (Call.sentSdp? (Server.request L))

/-- The SDPs of the answers a program has sent. -/
def answersSent (L : JsonLibs) (p : Process) : List Bytes :=
  p.state.calls.filterMap (Call.sentSdp? (Client.request L))

/-- Every `push_ice` in the log finds a peer connection to which a remote
description with property `P` was applied before. -/
def PushesFollow (P : SessionDescription → Prop) (calls : List Call) : Prop :=
  ∀ before pc ice, before ++ [.pushIce pc ice] <+: calls →
    ∃ cur remote, pc = some cur ∧ .setRemoteDescription cur remote ∈ before ∧ P remote

/-- `OnSuccess` of a side's `CreateOffer` or `CreateAnswer`. -/
def Action.creates (side : Side) : Action → Bool
  | .act side' (.callback (.sdpCreated _ _)) => side = side'
  | _ => false

/-- `OnFailure` of a side's `CreateOffer` or `CreateAnswer`. -/
def Action.failsToCreate (side : Side) : Action → Bool
  | .act side' (.callback (.sdpFailed _)) => side = side'
  | _ => false

/-! ### Reading the log -/

section Log

variable {L : JsonLibs} {message : Bytes → Bytes} {p : Process} {sent : List Bytes}

theorem localDescriptions_eq (p : Process) :
    localDescriptions p = p.signaling.said.filterMap Call.local? := by
  show _ = (p.state.calls.filter Call.isSaid).filterMap Call.local?
  rw [List.filterMap_filter]
  refine List.filterMap_congr fun c _ => ?_
  cases c <;> rfl

theorem sentSdps_eq (read : Bytes → Throwing Request) (p : Process) :
    p.state.calls.filterMap (Call.sentSdp? read) =
      p.signaling.said.filterMap (Call.sentSdp? read) := by
  show _ = (p.state.calls.filter Call.isSaid).filterMap _
  rw [List.filterMap_filter]
  refine List.filterMap_congr fun c _ => ?_
  cases c <;> rfl

/-- Candidates are not read as descriptions. -/
theorem filterMap_sentSdp_ices {name key : Bytes} (other : utf8 "ice" ≠ name) {ices : List Ice}
    (texts : ∀ ice ∈ ices, ice.IsText) :
    (ices.map fun ice => Call.wsSend (some 0) (ice.toJsonString L)).filterMap
      (Call.sentSdp? (dispatch L name key)) = [] := by
  rw [List.filterMap_eq_nil_iff]
  intro c member
  obtain ⟨ice, inside, rfl⟩ := List.mem_map.mp member
  simp only [Call.sentSdp?, dispatch_toJsonString other (texts ice inside)]
  by_cases complete : ice.Complete <;> simp [complete]

/-- What a speaker has applied to itself and sent. -/
theorem Speaker.descriptions (inv : Speaker L message p sent) {name key : Bytes}
    (other : utf8 "ice" ≠ name)
    (read : ∀ text, dispatch L name key (message (utf8 text)) = .ok (.sdp (utf8 text))) :
    (localDescriptions p).length ≤ 1 ∧
      p.state.calls.filterMap (Call.sentSdp? (dispatch L name key)) =
        (localDescriptions p).map fun d => utf8 d.2.text := by
  rw [sentSdps_eq, localDescriptions_eq]
  cases inv.told with
  | nothing said => simp [said]
  | spoke desc _ _ said texts =>
      have ices : (p.signaling.iceList.map fun ice =>
          Call.wsSend (some 0) (ice.toJsonString L)).filterMap Call.local? = [] := by
        rw [List.filterMap_map]
        exact List.filterMap_none _
      have locals : p.signaling.said.filterMap Call.local? = [(0, desc)] := by
        rw [said, script, List.filterMap_append, ices]
        rfl
      refine ⟨by simp [locals], ?_⟩
      rw [locals, said, script, List.filterMap_append, filterMap_sentSdp_ices other texts]
      simp [Call.sentSdp?, read, List.filterMap_cons]

variable {W : WebRtc} {type : SdpType} {x y : Process} {received : List Bytes}

/-- The parsed texts of a listener are what the speaker applied to itself. -/
theorem Listener.parses (inv : Listener L message W type x y received) {type' : SdpType}
    {sdp : Bytes} (parsed : .createSessionDescription type' sdp ∈ y.state.calls) :
    type' = type ∧ ∃ desc ices, x.signaling.said = script L message desc ices ∧
      sdp = utf8 desc.text := by
  have heard : .createSessionDescription type' sdp ∈ y.signaling.heard :=
    List.mem_filter.mpr ⟨parsed, rfl⟩
  cases inv with
  | nothing _ none => simp [none] at heard
  | rejected desc ices said _ _ head =>
      have eq := List.mem_singleton.mp (head.subset heard)
      cases eq
      exact ⟨rfl, desc, ices, said, rfl⟩
  | accepted desc _ _ said _ _ eq =>
      simp only [eq, List.cons_append, List.nil_append, List.mem_cons, List.mem_map, reduceCtorEq,
        and_false, exists_false, or_false, Call.createSessionDescription.injEq] at heard
      exact ⟨heard.1, desc, _, said, heard.2⟩

/-- The descriptions a listener applied are the speaker's, parsed. -/
theorem Listener.remotes (inv : Listener L message W type x y received) {pc : PcId}
    {remote : SessionDescription} (heard : .setRemoteDescription pc remote ∈ y.signaling.heard) :
    ∃ desc ices, x.signaling.said = script L message desc ices ∧
      W.createSessionDescription type (utf8 desc.text) = .ok remote := by
  cases inv with
  | nothing _ none => simp [none] at heard
  | rejected _ _ _ _ _ head => cases List.mem_singleton.mp (head.subset heard)
  | accepted desc _ _ said parsed _ eq =>
      simp only [eq, List.cons_append, List.nil_append, List.mem_cons, List.mem_map, reduceCtorEq,
        and_false, exists_false, or_false, false_or, Call.setRemoteDescription.injEq] at heard
      exact ⟨desc, _, said, heard.2 ▸ parsed⟩

/-- A pushed candidate comes after the description was applied. -/
theorem pushesFollow_of_heard {calls : List Call} {sdp : Bytes} {remote : SessionDescription}
    {ices : List Ice} {P : SessionDescription → Prop}
    (heard : calls.filter Call.isHeard =
      [.createSessionDescription type sdp, .setRemoteDescription 0 remote] ++
        ices.map fun ice => .pushIce (some 0) ice)
    (good : P remote) : PushesFollow P calls := by
  intro before pc ice log
  have order := log.filter Call.isHeard
  have push : [Call.pushIce pc ice].filter Call.isHeard = [.pushIce pc ice] := rfl
  rw [List.filter_append, push, heard] at order
  obtain ⟨tail, eq⟩ := order
  -- The first two calls a listener takes in are not pushes.
  match taken : before.filter Call.isHeard with
  | [] => simp [taken] at eq
  | [first] => simp [taken] at eq
  | first :: second :: rest =>
      simp only [taken, List.cons_append, List.nil_append, List.cons.injEq] at eq
      obtain ⟨-, rfl, more⟩ := eq
      have member : .pushIce pc ice ∈ ices.map fun ice => Call.pushIce (some 0) ice := by
        rw [← more]
        simp
      obtain ⟨ice', -, same⟩ := List.mem_map.mp member
      cases same
      have applied : .setRemoteDescription 0 remote ∈ before.filter Call.isHeard := by
        simp [taken]
      exact ⟨0, remote, rfl, (List.mem_filter.mp applied).1, good⟩

theorem Listener.pushesFollow (inv : Listener L message W type x y received) :
    PushesFollow (fun remote => ∃ desc ices, x.signaling.said = script L message desc ices ∧
      W.createSessionDescription type (utf8 desc.text) = .ok remote) y.state.calls := by
  have unpushed : ∀ sdp, y.signaling.heard <+: [.createSessionDescription type sdp] →
      ∀ P, PushesFollow P y.state.calls := by
    intro sdp head P before pc ice log
    have member : .pushIce pc ice ∈ y.signaling.heard :=
      List.mem_filter.mpr ⟨log.subset (by simp), rfl⟩
    cases List.mem_singleton.mp (head.subset member)
  cases inv with
  | nothing _ none => exact unpushed [] (by simp [none]) _
  | rejected _ _ _ _ _ head => exact unpushed _ head _
  | accepted desc remote _ said parsed _ heard =>
      exact pushesFollow_of_heard heard ⟨desc, _, said, parsed⟩

end Log

/-! ### Counting descriptions -/

section Count

variable {L : JsonLibs} {message : Bytes → Bytes} {p q : Process} {ev : Event} {sent : List Bytes}

/-- A local step applies a description exactly when one was reported, and uses
up a request exactly when one was answered. -/
theorem Speaker.count (side : Side) (inv : Speaker L message p sent)
    (alive : p.phase.alive = true) (h : Local L message p ev q) :
    (localDescriptions q).length = (localDescriptions p).length +
        (if (Action.act side ev).creates side then 1 else 0) ∧
      q.signaling.requests.length + (if (Action.act side ev).creates side then 1 else 0) +
        (if (Action.act side ev).failsToCreate side then 1 else 0) =
          p.signaling.requests.length := by
  rw [localDescriptions_eq, localDescriptions_eq]
  cases h with
  | quiet same _ isQuiet =>
      have neither : (Action.act side ev).creates side = false ∧
          (Action.act side ev).failsToCreate side = false := by
        cases ev with
        | callback c => cases c <;> first | exact ⟨rfl, rfl⟩ | cases isQuiet
        | _ => exact ⟨rfl, rfl⟩
      simp [same, neither]
  | failed same | closed same | quit same => simp [same, Action.creates, Action.failsToCreate]
  | withdrawn pending same =>
      obtain ⟨rfl, requests, -⟩ := inv.told_of_pending pending
      simp [same, requests, Action.creates, Action.failsToCreate]
  | described pending _ same =>
      obtain ⟨rfl, requests, -, said, -⟩ := inv.told_of_pending pending
      simp [same, requests, said, Action.creates, Action.failsToCreate, Call.local?,
        List.filterMap_cons]
  | undescribed pending null =>
      obtain ⟨-, -, peer, -⟩ := inv.told_of_pending pending
      rw [inv.current alive peer] at null
      cases null
  | candidate _ same =>
      simp [same, Action.creates, Action.failsToCreate, Call.local?, List.filterMap_cons]

end Count

namespace Session

variable {L : JsonLibs} {Wc Ws : WebRtc} {s t : Session} {es : List Action}

/-- The server has applied a remote description to its peer connection. -/
def ServerAnswering (s : Session) : Prop :=
  ∃ remote, .setRemoteDescription 0 remote ∈ s.server.signaling.heard

/-- A live server with a peer connection has applied an offer to it. -/
theorem Inv.serverAnswering (inv : Inv L Wc Ws s) (alive : s.server.phase.alive = true)
    (peer : s.server.signaling.peers = 1) : ServerAnswering s := by
  cases inv.toServer with
  | nothing _ heard =>
      have := inv.serverPeer alive heard
      omega
  | rejected _ _ _ _ ended => simp [alive] at ended
  | accepted _ remote _ _ _ _ heard => exact ⟨remote, by simp [heard]⟩

/-- A message leaves the applied description in the log. -/
theorem Inv.serverAnswering_deliver {payload : Bytes} (inv : Inv L Wc Ws s)
    (answering : ServerAnswering s) (later : Inv L Wc Ws t)
    (received : t.toServer.received = s.toServer.received ++ [payload]) : ServerAnswering t := by
  obtain ⟨remote, applied⟩ := answering
  have arrived : s.toServer.received.length ≠ 0 := by
    cases inv.toServer with
    | nothing _ heard => simp [heard] at applied
    | rejected _ _ _ count => omega
    | accepted _ _ _ _ _ _ _ arrived => simpa using arrived
  cases later.toServer with
  | nothing none => simp [received] at none
  | rejected _ _ _ count =>
      simp only [received, List.length_append, List.length_singleton] at count
      omega
  | accepted _ remote' _ _ _ _ heard => exact ⟨remote', by simp [heard]⟩

/-- How many descriptions each side applied to itself after these actions, and
what became of the client's request for an offer. -/
structure Tally (L : JsonLibs) (Wc Ws : WebRtc) (es : List Action) (s : Session) : Prop where
  inv : Inv L Wc Ws s
  client : (localDescriptions s.client).length = es.countP (Action.creates .client)
  server : (localDescriptions s.server).length = es.countP (Action.creates .server)
  asked : s.client.phase.alive = true → s.client.signaling.peers = 1 →
    s.client.signaling.requests.length + (localDescriptions s.client).length +
      es.countP (Action.failsToCreate .client) = 1
  unasked : s.client.signaling.peers = 0 → es.countP (Action.failsToCreate .client) = 0
  answering : s.server.signaling.said ≠ [] → ServerAnswering s

@[simp] theorem localDescriptions_flushed (p : Process) :
    localDescriptions p.flushed = localDescriptions p := rfl

theorem localDescriptions_of_said {p q : Process} (said : q.signaling.said = p.signaling.said) :
    localDescriptions q = localDescriptions p := by
  rw [localDescriptions_eq, localDescriptions_eq, said]

/-- The client's tally after one of its own events. -/
theorem Tally.client_act (tally : Tally L Wc Ws es s) {ev : Event} {p : Process}
    (solo : ev.isSolo = true) (moved : Process.step (Client.manager L Wc) s.client ev = some p) :
    (localDescriptions p).length = es.countP (Action.creates .client) +
        (if (Action.act .client ev).creates .client then 1 else 0) ∧
      (p.phase.alive = true → p.signaling.peers = 1 →
        p.signaling.requests.length + (localDescriptions p).length +
          (es.countP (Action.failsToCreate .client) +
            if (Action.act .client ev).failsToCreate .client then 1 else 0) = 1) ∧
      (p.signaling.peers = 0 → es.countP (Action.failsToCreate .client) +
        (if (Action.act .client ev).failsToCreate .client then 1 else 0) = 0) := by
  have alive := Process.alive_of_step moved
  rcases isLocal_of_isSolo solo with rfl | isLocal
  · obtain ⟨absent, -, outcome⟩ := Client.signaling_open moved
    have none := tally.inv.client.fresh absent
    have fails := tally.unasked none
    obtain ⟨requests, said⟩ := tally.inv.client.fresh_silent none
    have locals : localDescriptions p = localDescriptions s.client := by
      refine localDescriptions_of_said ?_
      rcases outcome with same | ⟨-, pc, peers, -, same⟩ <;> rw [same]
    have before : localDescriptions s.client = [] := by rw [localDescriptions_eq, said]; rfl
    refine ⟨by simp [locals, tally.client, Action.creates], fun live _ => ?_, fun _ => ?_⟩
    · rcases outcome with same | ⟨ended, -⟩
      · simp [same, requests, locals, before, fails, Action.failsToCreate]
      · simp [ended] at live
    · simp [fails, Action.failsToCreate]
  · have move := local_of_step (Client.speaks L Wc) isLocal moved
    obtain ⟨made, used⟩ := tally.inv.client.count .client alive move
    have peers := move.heard_eq.2
    refine ⟨by rw [made, tally.client], fun _ peer => ?_, fun none => ?_⟩
    · have sum := tally.asked alive (peers.symm.trans peer)
      omega
    · have fails := tally.unasked (peers.symm.trans none)
      have requests := (tally.inv.client.fresh_silent (peers.symm.trans none)).1
      rw [requests, List.length_nil] at used
      omega

/-- The server's tally after one of its own events. -/
theorem Tally.server_act (tally : Tally L Wc Ws es s) {ev : Event} {p : Process}
    (solo : ev.isSolo = true) (moved : Process.step (Server.manager L Ws) s.server ev = some p)
    (next : Speaker L (answerMessage L) p.flushed (s.toClient.sent ++ p.signaling.outbox)) :
    (localDescriptions p).length = es.countP (Action.creates .server) +
        (if (Action.act .server ev).creates .server then 1 else 0) ∧
      (p.signaling.said ≠ [] →
        ∃ remote, .setRemoteDescription 0 remote ∈ p.signaling.heard) := by
  have alive := Process.alive_of_step moved
  rcases isLocal_of_isSolo solo with rfl | isLocal
  · obtain ⟨-, -, same⟩ := Server.signaling_open moved
    have said : p.signaling.said = s.server.signaling.said := by rw [same]
    refine ⟨by simp [localDescriptions_of_said said, tally.server, Action.creates], fun some => ?_⟩
    have answering := tally.answering (said ▸ some)
    rw [same]
    exact answering
  · have move := local_of_step (Server.speaks L Ws) isLocal moved
    obtain ⟨made, -⟩ := tally.inv.server.count .server alive move
    obtain ⟨heard, peers⟩ := move.heard_eq
    refine ⟨by rw [made, tally.server], fun some => ?_⟩
    -- Whoever has spoken has a peer connection, and the offer was applied to it.
    have peer : p.signaling.peers = 1 := by
      cases next.told with
      | nothing none => exact absurd none some
      | spoke _ peer => exact peer
    have answering := tally.inv.serverAnswering alive (peers.symm.trans peer)
    rw [heard]
    exact answering

/-- The tally is right after every run. -/
theorem Tally.step (tally : Tally L Wc Ws es s) {a : Action}
    (h : Session.step L Wc Ws s a = some t) : Tally L Wc Ws (es ++ [a]) t := by
  have inv := tally.inv.step h
  rcases step_cases h with ⟨ev, p, rfl, solo, moved, rfl⟩ | ⟨ev, p, rfl, solo, moved, rfl⟩ |
    ⟨payload, rest, p, rfl, popped, moved, rfl⟩ | ⟨payload, rest, p, rfl, popped, moved, rfl⟩
  · obtain ⟨client, asked, unasked⟩ := tally.client_act solo moved
    have other : (Action.act .client ev).creates .server = false := by
      cases ev with
      | callback c => cases c <;> rfl
      | _ => rfl
    refine ⟨inv, ?_, ?_, ?_, ?_, tally.answering⟩ <;>
      simp only [List.countP_append, List.countP_singleton, other]
    · exact client
    · exact tally.server
    · exact asked
    · exact unasked
  · obtain ⟨server, answering⟩ := tally.server_act solo moved (by simpa using inv.server)
    have others : (Action.act .server ev).creates .client = false ∧
        (Action.act .server ev).failsToCreate .client = false := by
      cases ev with
      | callback c => cases c <;> exact ⟨rfl, rfl⟩
      | _ => exact ⟨rfl, rfl⟩
    refine ⟨inv, ?_, ?_, ?_, ?_, answering⟩ <;>
      simp only [List.countP_append, List.countP_singleton, others]
    · exact tally.client
    · exact server
    · exact tally.asked
    · exact tally.unasked
  · have alive := Process.alive_of_step moved
    have current := tally.inv.client.current alive
      (tally.inv.clientPeer alive (present_of_message moved))
    obtain ⟨heard, same⟩ := Client.signaling_message current moved
    have locals : localDescriptions p = localDescriptions s.client :=
      localDescriptions_of_said (by rw [same])
    have same' : p.signaling.peers = s.client.signaling.peers ∧
        p.signaling.requests = s.client.signaling.requests := by simp [same]
    refine ⟨inv, ?_, ?_, ?_, ?_, tally.answering⟩ <;>
      simp only [List.countP_append, List.countP_singleton, Action.creates, Action.failsToCreate]
    · exact (congrArg List.length locals).trans tally.client
    · exact tally.server
    · intro _ peer
      have sum := tally.asked alive (same'.1.symm.trans peer)
      rw [← locals, ← same'.2] at sum
      exact sum
    · exact fun none => tally.unasked (same'.1.symm.trans none)
  · obtain ⟨said, -⟩ := Server.signaling_message moved
    have received := (Fifo.pop_eq_some popped).2.1
    refine ⟨inv, ?_, ?_, ?_, ?_, fun some => ?_⟩
    · simpa [Action.creates] using tally.client
    · simpa [Action.creates] using
        (congrArg List.length (localDescriptions_of_said said)).trans tally.server
    · simpa [Action.failsToCreate] using tally.asked
    · simpa [Action.failsToCreate] using tally.unasked
    · exact tally.inv.serverAnswering_deliver (tally.answering (said ▸ some)) inv received

theorem tally_of_run (run : (machine L Wc Ws).run es = some s) : Tally L Wc Ws es s := by
  refine Automaton.run_history (I := Tally L Wc Ws) ?_ (fun _ _ _ _ tally h => tally.step h) run
  exact ⟨inv_initial, rfl, rfl, fun _ peer => absurd peer Nat.zero_ne_one, fun _ => rfl,
    fun some => absurd rfl some⟩

end Session

/-! ### The agreement -/

/-- What a session has agreed on after some actions. -/
structure HandshakeAgreement (L : JsonLibs) (Wc Ws : WebRtc) (es : List Action) (s : Session) :
    Prop where
  /-- The client sends the text of each description it applies to itself, one
  for each that libwebrtc reported, and at most one. -/
  offers : offersSent L s.client = (localDescriptions s.client).map fun d => utf8 d.2.text
  offers_created : (offersSent L s.client).length = es.countP (Action.creates .client)
  offers_le : (offersSent L s.client).length ≤ 1
  /-- Exactly one, once its request is answered. -/
  one_offer : s.client.phase.alive = true → s.client.state.peers = 1 →
    s.client.state.requests = [] → es.countP (Action.failsToCreate .client) = 0 →
    (offersSent L s.client).length = 1
  answers : answersSent L s.server = (localDescriptions s.server).map fun d => utf8 d.2.text
  answers_created : (answersSent L s.server).length = es.countP (Action.creates .server)
  answers_le : (answersSent L s.server).length ≤ 1
  /-- The server parses the client's own description. -/
  offer_text : ∀ type sdp, .createSessionDescription type sdp ∈ s.server.state.calls →
    type = .offer ∧ ∃ desc, (0, desc) ∈ localDescriptions s.client ∧ sdp = utf8 desc.text
  /-- The client parses the server's own description, made for the peer
  connection to which the client's offer was applied. -/
  answer_text : ∀ type sdp, .createSessionDescription type sdp ∈ s.client.state.calls →
    type = .answer ∧ ∃ desc, (0, desc) ∈ localDescriptions s.server ∧ sdp = utf8 desc.text ∧
      ∃ remote offer, .setRemoteDescription 0 remote ∈ s.server.state.calls ∧
        (0, offer) ∈ localDescriptions s.client ∧
        Ws.createSessionDescription .offer (utf8 offer.text) = .ok remote
  server_pushes : PushesFollow (fun remote => ∃ desc, (0, desc) ∈ localDescriptions s.client ∧
    Ws.createSessionDescription .offer (utf8 desc.text) = .ok remote) s.server.state.calls
  client_pushes : PushesFollow (fun remote => ∃ desc, (0, desc) ∈ localDescriptions s.server ∧
    Wc.createSessionDescription .answer (utf8 desc.text) = .ok remote) s.client.state.calls

theorem PushesFollow.mono {P Q : SessionDescription → Prop} {calls : List Call}
    (h : PushesFollow P calls) (weaker : ∀ desc, P desc → Q desc) : PushesFollow Q calls := by
  intro before pc ice log
  obtain ⟨cur, remote, current, applied, good⟩ := h before pc ice log
  exact ⟨cur, remote, current, applied, weaker remote good⟩

/-- A description in the script is one the program applied to itself. -/
theorem mem_localDescriptions {L : JsonLibs} {message : Bytes → Bytes} {p : Process}
    {desc : SessionDescription} {ices : List Ice}
    (said : p.signaling.said = script L message desc ices) : (0, desc) ∈ localDescriptions p := by
  rw [localDescriptions_eq, said]
  simp [script, Call.local?, List.filterMap_cons]

/-- It is the only one. -/
theorem localDescriptions_of_script {L : JsonLibs} {message : Bytes → Bytes} {p : Process}
    {desc : SessionDescription} {ices : List Ice}
    (said : p.signaling.said = script L message desc ices) :
    localDescriptions p = [(0, desc)] := by
  have none : (ices.map fun ice => Call.wsSend (some 0) (ice.toJsonString L)).filterMap
      Call.local? = [] := by
    rw [List.filterMap_map]
    exact List.filterMap_none _
  rw [localDescriptions_eq, said, script, List.filterMap_append, none]
  rfl

/-- **Agreement on the handshake**, in every run of a session. -/
theorem handshake_agreement (L : JsonLibs) (Wc Ws : WebRtc) (es : List Action) (s : Session)
    (run : (Session.machine L Wc Ws).run es = some s) : HandshakeAgreement L Wc Ws es s := by
  have tally := Session.tally_of_run run
  have inv := tally.inv
  have client := inv.client.descriptions (by decide) (Server.request_offerMessage (L := L))
  have server := inv.server.descriptions (by decide) (Client.request_answerMessage (L := L))
  have offers : offersSent L s.client =
      (localDescriptions s.client).map fun d => utf8 d.2.text := client.2
  have answers : answersSent L s.server =
      (localDescriptions s.server).map fun d => utf8 d.2.text := server.2
  exact
    { offers := offers
      offers_created := by rw [offers, List.length_map, tally.client]
      offers_le := by rw [offers, List.length_map]; exact client.1
      one_offer := fun alive peer pending fails => by
        have requests : s.client.signaling.requests = [] := pending
        have sum := tally.asked alive peer
        rw [requests, fails] at sum
        rw [offers, List.length_map]
        simpa using sum
      answers := answers
      answers_created := by rw [answers, List.length_map, tally.server]
      answers_le := by rw [answers, List.length_map]; exact server.1
      offer_text := fun type sdp parsed => by
        obtain ⟨same, desc, ices, said, text⟩ := inv.toServer.parses parsed
        exact ⟨same, desc, mem_localDescriptions said, text⟩
      answer_text := fun type sdp parsed => by
        obtain ⟨same, desc, ices, said, text⟩ := inv.toClient.parses parsed
        obtain ⟨remote, applied⟩ := tally.answering (by rw [said]; exact script_ne_nil)
        obtain ⟨offer, ices', offered, taken⟩ := inv.toServer.remotes applied
        exact ⟨same, desc, mem_localDescriptions said, text, remote, offer,
          (List.mem_filter.mp applied).1, mem_localDescriptions offered, taken⟩
      server_pushes := inv.toServer.pushesFollow.mono fun remote ⟨desc, ices, said, parsed⟩ =>
        ⟨desc, mem_localDescriptions said, parsed⟩
      client_pushes := inv.toClient.pushesFollow.mono fun remote ⟨desc, ices, said, parsed⟩ =>
        ⟨desc, mem_localDescriptions said, parsed⟩ }

theorem handshake_agreement_exchange :
    ∃ s, (Session.machine .reference .reference .reference).run Session.exchange = some s ∧
      HandshakeAgreement .reference .reference .reference Session.exchange s ∧
      (offersSent .reference s.client).length = 1 ∧
      (answersSent .reference s.server).length = 1 := by
  have checked : ((Session.machine .reference .reference .reference).run Session.exchange).any
      (fun s => (offersSent .reference s.client).length == 1 &&
        (answersSent .reference s.server).length == 1) = true := by
    decide +kernel
  obtain ⟨s, run, facts⟩ := (Option.any_eq_true _ _).mp checked
  simp only [Bool.and_eq_true, beq_iff_eq] at facts
  exact ⟨s, run, handshake_agreement _ _ _ _ s run, facts⟩

end WebrtcSample
