import WebrtcSample.Session

/-!
The invariant of a session: who said what, and how much of it the other side
has taken in.

A side that has spoken said one description and then its candidates, in the
order of `ice_list_` (`script`). What it handed to the connection is a prefix of
the messages for that, and all of them while the connection is open (`Speaker`).
What the other side has taken in is determined by how many messages reached it:
the description first, then one `push_ice` for each candidate (`Listener`).
Both are kept by every action, whichever side moves, so they hold in every
reachable state of a session (`Session.inv_of_reachable`).
-/

namespace WebrtcSample

variable (L : JsonLibs) (message : Bytes → Bytes)

/-- The calls of a side that described itself and reported these candidates. -/
def script (desc : SessionDescription) (ices : List Ice) : List Call :=
  [.setLocalDescription 0 desc, .wsSend (some 0) (message (utf8 desc.text))] ++
    ices.map fun ice => .wsSend (some 0) (ice.toJsonString L)

/-- The messages of that side. -/
def payloads (desc : SessionDescription) (ices : List Ice) : List Bytes :=
  message (utf8 desc.text) :: ices.map fun ice => ice.toJsonString L

/-- What a program has said, and what of it websocketpp has taken. -/
inductive Told (p : Process) (sent : List Bytes) : Prop
  | nothing (said : p.signaling.said = []) (ices : p.signaling.iceList = [])
      (described : p.signaling.described = []) (sent : sent = [])
  | spoke (desc : SessionDescription) (peer : p.signaling.peers = 1)
      (requests : p.signaling.requests = [])
      (said : p.signaling.said = script L message desc p.signaling.iceList)
      (texts : ∀ ice ∈ p.signaling.iceList, ice.IsText)
      (sent_first : sent <+: payloads L message desc p.signaling.iceList)
      (sent_all : p.conn = .open → sent = payloads L message desc p.signaling.iceList)

/-- The invariant of a side as a speaker. A session's side has at most one peer
connection and makes at most one description. -/
structure Speaker (p : Process) (sent : List Bytes) : Prop where
  outbox : p.signaling.outbox = []
  one : p.signaling.peers ≤ 1
  current : p.phase.alive = true → p.signaling.peers = 1 → p.signaling.peerConnection = some 0
  hdl : p.signaling.peers = 1 → p.signaling.wsHdl = some 0
  fresh : p.conn = .absent → p.signaling.peers = 0
  pending : p.signaling.requests = [] ∨
    p.signaling.requests = [0] ∧ p.signaling.peers = 1 ∧ p.signaling.said = []
  told : Told L message p sent

section Lists

variable {L message} {desc : SessionDescription} {ices : List Ice}

theorem script_append (ice : Ice) :
    script L message desc (ices ++ [ice]) =
      script L message desc ices ++ [.wsSend (some 0) (ice.toJsonString L)] := by
  simp [script]

theorem payloads_append (ice : Ice) :
    payloads L message desc (ices ++ [ice]) =
      payloads L message desc ices ++ [ice.toJsonString L] := by
  simp [payloads]

theorem script_ne_nil : script L message desc ices ≠ [] := by simp [script]

end Lists

@[simp] theorem Process.flushed_signaling (p : Process) :
    p.flushed.signaling = { p.signaling with outbox := [] } := rfl

@[simp] theorem Process.flushed_conn (p : Process) : p.flushed.conn = p.conn := rfl

@[simp] theorem Process.flushed_phase (p : Process) : p.flushed.phase = p.phase := rfl

/-- In a session `send` works exactly while the connection is open. -/
theorem isOpen_eq {p : Process} (hdl : p.signaling.wsHdl = some 0) :
    p.state.isOpen = decide (p.conn = .open) := by
  have wsHdl : p.state.wsHdl = some 0 := hdl
  simp only [Endpoint.isOpen, wsHdl]
  rfl

/-! ### The speaker's invariant -/

section SpeakerSteps

variable {L message} {p q : Process} {ev : Event} {sent : List Bytes}

/-- A program that has spoken has no request pending. -/
theorem Speaker.told_of_pending (inv : Speaker L message p sent) {pc : PcId}
    (pending : pc ∈ p.signaling.requests) :
    pc = 0 ∧ p.signaling.requests = [0] ∧ p.signaling.peers = 1 ∧ p.signaling.said = [] ∧
      p.signaling.iceList = [] ∧ sent = [] := by
  rcases inv.pending with none | ⟨requests, peer, said⟩
  · simp [none] at pending
  · have zero : pc = 0 := by simpa [requests] using pending
    cases inv.told with
    | nothing _ ices _ sent => exact ⟨zero, requests, peer, said, ices, sent⟩
    | spoke _ _ _ said' => exact absurd (said'.symm.trans said) script_ne_nil

/-- A step that says nothing keeps the invariant. -/
theorem Speaker.silent (inv : Speaker L message p sent)
    (said : q.signaling.said = p.signaling.said)
    (ices : q.signaling.iceList = p.signaling.iceList)
    (described : q.signaling.described = p.signaling.described)
    (outbox : q.signaling.outbox = p.signaling.outbox)
    (peers : q.signaling.peers = p.signaling.peers)
    (requests : q.signaling.requests = p.signaling.requests ∨ q.signaling.requests = [])
    (current : q.phase.alive = true → p.signaling.peers = 1 → q.signaling.peerConnection = some 0)
    (hdl : q.signaling.wsHdl = p.signaling.wsHdl ∨ q.signaling.wsHdl = some 0)
    (fresh : q.conn = .absent → p.signaling.peers = 0)
    (isOpen : q.conn = .open → p.conn = .open ∨ p.conn = .absent) :
    Speaker L message q.flushed (sent ++ q.signaling.outbox) := by
  rw [outbox, inv.outbox, List.append_nil]
  refine
    { outbox := rfl
      one := by simpa [peers] using inv.one
      current := fun alive peer => current alive (by simpa [peers] using peer)
      hdl := fun peer => ?_
      fresh := fun absent => by simpa [peers] using fresh absent
      pending := ?_
      told := ?_ }
  · rcases hdl with same | zero
    · simpa [same] using inv.hdl (by simpa [peers] using peer)
    · simpa using zero
  · rcases requests with same | none
    · simpa [same, peers, said] using inv.pending
    · exact .inl (by simpa using none)
  · cases told : inv.told with
    | nothing said' ices' described' sent' =>
        exact .nothing (by simp [said, said']) (by simp [ices, ices'])
          (by simp [described, described']) sent'
    | spoke desc peer requests' said' texts sent_first sent_all =>
        refine .spoke desc (by simpa [peers] using peer) ?_ (by simpa [said, ices] using said')
          (by simpa [ices] using texts) (by simpa [ices] using sent_first) fun now => ?_
        · rcases requests with same | none
          · simpa [same] using requests'
          · simpa using none
        · rcases isOpen now with before | before
          · simpa [ices] using sent_all before
          · have := inv.fresh before
            omega

/-- A step that says something keeps the invariant if it fits what was said. -/
theorem Speaker.of_told (inv : Speaker L message p sent) (alive : p.phase.alive = true)
    (peer : p.signaling.peers = 1) (peers : q.signaling.peers = p.signaling.peers)
    (pc : q.signaling.peerConnection = p.signaling.peerConnection)
    (hdl : q.signaling.wsHdl = p.signaling.wsHdl) (requests : q.signaling.requests = [])
    (conn : q.conn = p.conn) (told : Told L message q.flushed (sent ++ q.signaling.outbox)) :
    Speaker L message q.flushed (sent ++ q.signaling.outbox) where
  outbox := rfl
  one := by simpa [peers] using inv.one
  current := fun _ _ => pc.trans (inv.current alive peer)
  hdl := fun _ => hdl.trans (inv.hdl peer)
  fresh := by simpa [peers, conn] using inv.fresh
  pending := .inl requests
  told := told

/-- The one description of a side: nothing was said before it. -/
theorem Speaker.described (inv : Speaker L message p sent) (alive : p.phase.alive = true)
    {pc cur : PcId} {desc : SessionDescription} (pending : pc ∈ p.signaling.requests)
    (current : p.signaling.peerConnection = some cur)
    (same : q.signaling = { p.signaling with
      requests := p.signaling.requests.erase pc
      described := p.signaling.described ++ [cur]
      said := p.signaling.said ++ [.setLocalDescription cur desc,
        .wsSend p.signaling.wsHdl (message (utf8 desc.text))]
      outbox := p.signaling.outbox ++
        if p.state.isOpen then [message (utf8 desc.text)] else [] })
    (conn : q.conn = p.conn) : Speaker L message q.flushed (sent ++ q.signaling.outbox) := by
  obtain ⟨rfl, requests, peer, said, ices, none⟩ := inv.told_of_pending pending
  have zero : cur = 0 := by simpa [inv.current alive peer] using current.symm
  have hdl := inv.hdl peer
  have sends := isOpen_eq hdl
  refine inv.of_told alive peer (by rw [same]) (by rw [same]) (by rw [same])
    (by simp [same, requests]) conn ?_
  refine .spoke desc (by simpa [same] using peer) (by simp [same, requests])
    (by simp [same, said, script, zero, hdl, ices]) (by simp [same, ices]) ?_ ?_
  · simp only [none, same, inv.outbox, sends]
    split <;> simp [payloads]
  · intro isOpen
    have before : p.conn = .open := conn.symm.trans isOpen
    simp [none, same, inv.outbox, sends, before, payloads, ices]

/-- A candidate is reported after the description. -/
theorem Speaker.reported (inv : Speaker L message p sent) (alive : p.phase.alive = true)
    {pc : PcId} {candidate : IceCandidate} (gathers : pc ∈ p.signaling.described)
    (same : q.signaling = { p.signaling with
      iceList := p.signaling.iceList ++ [Connection.toIce candidate]
      said := p.signaling.said ++
        [.wsSend p.signaling.wsHdl ((Connection.toIce candidate).toJsonString L)]
      outbox := p.signaling.outbox ++
        if p.state.isOpen then [(Connection.toIce candidate).toJsonString L] else [] })
    (conn : q.conn = p.conn) : Speaker L message q.flushed (sent ++ q.signaling.outbox) := by
  cases told : inv.told with
  | nothing _ _ described => simp [described] at gathers
  | spoke desc peer requests said texts sent_first sent_all =>
      have hdl := inv.hdl peer
      have sends := isOpen_eq hdl
      refine inv.of_told alive peer (by rw [same]) (by rw [same]) (by rw [same])
        (by rw [same]; exact requests) conn ?_
      refine .spoke desc (by simpa [same] using peer) (by simpa [same] using requests)
        (by simp [same, said, hdl, script_append]) ?_ ?_ ?_
      · intro ice member
        simp only [Process.flushed_signaling, same, List.mem_append, List.mem_singleton] at member
        rcases member with old | rfl
        · exact texts ice old
        · exact Connection.toIce_isText candidate
      · by_cases isOpen : p.conn = .open
        · simp [same, inv.outbox, sends, isOpen, sent_all isOpen, payloads_append]
        · simpa [same, inv.outbox, sends, isOpen, payloads_append] using
            sent_first.trans (List.prefix_append _ _)
      · intro isOpen
        have before : p.conn = .open := conn.symm.trans isOpen
        simp [same, inv.outbox, sends, before, sent_all before, payloads_append]

/-- **The speaker's invariant survives every local step.** -/
theorem Speaker.local_step (inv : Speaker L message p sent) (alive : p.phase.alive = true)
    (h : Local L message p ev q) : Speaker L message q.flushed (sent ++ q.signaling.outbox) := by
  have keeps : q.signaling.peerConnection = p.signaling.peerConnection →
      q.phase.alive = true → p.signaling.peers = 1 → q.signaling.peerConnection = some 0 :=
    fun same _ peer => same.trans (inv.current alive peer)
  cases h with
  | quiet same conn =>
      refine inv.silent (by rw [same]) (by rw [same]) (by rw [same]) (by rw [same]) (by rw [same])
        (.inl (by rw [same])) (keeps (by rw [same])) (.inl (by rw [same])) ?_ ?_
      · intro absent
        rcases conn with eq | ⟨-, closing⟩
        · exact inv.fresh (eq.symm.trans absent)
        · simp [closing] at absent
      · intro isOpen
        rcases conn with eq | ⟨before, -⟩
        · exact .inl (eq.symm.trans isOpen)
        · exact .inl before
  | failed same absent conn =>
      exact inv.silent (by rw [same]) (by rw [same]) (by rw [same]) (by rw [same]) (by rw [same])
        (.inl (by rw [same])) (keeps (by rw [same])) (.inl (by rw [same])) (by simp [conn])
        (by simp [conn])
  | closed same present conn =>
      exact inv.silent (by rw [same]) (by rw [same]) (by rw [same]) (by rw [same]) (by rw [same])
        (.inl (by rw [same])) (keeps (by rw [same])) (.inr (by rw [same])) (by simp [conn])
        (by simp [conn])
  | withdrawn pending same conn =>
      obtain ⟨rfl, requests, -⟩ := inv.told_of_pending pending
      exact inv.silent (by rw [same]) (by rw [same]) (by rw [same]) (by rw [same]) (by rw [same])
        (.inr (by rw [same]; simp [requests])) (keeps (by rw [same])) (.inl (by rw [same]))
        (by rw [conn]; exact inv.fresh) (by rw [conn]; exact .inl)
  | undescribed pending null same conn =>
      obtain ⟨-, -, peer, -⟩ := inv.told_of_pending pending
      rw [inv.current alive peer] at null
      cases null
  | quit same ended conn =>
      exact inv.silent (by rw [same]) (by rw [same]) (by rw [same]) (by rw [same]) (by rw [same])
        (.inl (by rw [same])) (by simp [ended]) (.inl (by rw [same]))
        (by rw [conn]; exact inv.fresh) (by rw [conn]; exact .inl)
  | described pending current same conn => exact inv.described alive pending current same conn
  | candidate gathers same conn => exact inv.reported alive gathers same conn

/-- A side without a peer connection has asked for nothing and said nothing. -/
theorem Speaker.fresh_silent (inv : Speaker L message p sent) (none : p.signaling.peers = 0) :
    p.signaling.requests = [] ∧ p.signaling.said = [] := by
  refine ⟨?_, ?_⟩
  · rcases inv.pending with empty | ⟨-, peer, -⟩
    · exact empty
    · omega
  · cases inv.told with
    | nothing said => exact said
    | spoke _ peer => omega

/-- A handler gives a side its peer connection. -/
theorem Speaker.begun (inv : Speaker L message p sent) (none : p.signaling.peers = 0)
    (present : q.conn ≠ .absent) {pc : Option PcId} {peers : Nat} {requests : List PcId}
    {heard : List Call}
    (same : q.signaling = { p.signaling with
      wsHdl := some 0
      peerConnection := pc
      peers := peers
      requests := requests
      heard := heard })
    (one : peers ≤ 1) (current : q.phase.alive = true → peers = 1 → pc = some 0)
    (pending : requests = [] ∨ requests = [0] ∧ peers = 1) :
    Speaker L message q.flushed (sent ++ q.signaling.outbox) := by
  cases told : inv.told with
  | spoke _ peer => omega
  | nothing said ices described empty =>
      refine
        { outbox := rfl
          one := by simpa [same] using one
          current := by simpa [same] using current
          hdl := fun _ => by simp [same]
          fresh := fun absent => absurd absent present
          pending := by simpa [same, said] using pending
          told := ?_ }
      exact .nothing (by simp [same, said]) (by simp [same, ices]) (by simp [same, described])
        (by simp [same, empty, inv.outbox])

end SpeakerSteps

/-! ### The listener's invariant -/

/-- What a program has taken in of what its peer said, after this many messages
reached it. A candidate with a sentinel value in a field cannot be read, so only
a listener that is alive, or one whose peer never reported such a candidate, is
known to have pushed every candidate that reached it. -/
inductive Listener (W : WebRtc) (type : SdpType) (x y : Process) (received : List Bytes) : Prop
  | nothing (none : received = []) (heard : y.signaling.heard = [])
  | rejected (desc : SessionDescription) (ices : List Ice)
      (said : x.signaling.said = script L message desc ices) (count : received.length = 1)
      (ended : y.phase.alive = false)
      (heard : y.signaling.heard <+: [.createSessionDescription type (utf8 desc.text)])
  | accepted (desc remote : SessionDescription) (pushed : List Ice)
      (said : x.signaling.said = script L message desc x.signaling.iceList)
      (parsed : W.createSessionDescription type (utf8 desc.text) = .ok remote)
      (peer : y.signaling.peers = 1)
      (heard : y.signaling.heard =
        [.createSessionDescription type (utf8 desc.text), .setRemoteDescription 0 remote] ++
          pushed.map fun ice => .pushIce (some 0) ice)
      (arrived : received ≠ []) (count : received.length ≤ x.signaling.iceList.length + 1)
      (pushed_first : pushed <+: x.signaling.iceList.take (received.length - 1))
      (pushed_all : y.phase.alive = true ∨ (∀ ice ∈ x.signaling.iceList, ice.Complete) →
        pushed = x.signaling.iceList.take (received.length - 1))

section ListenerSteps

variable {L message} {W : WebRtc} {type : SdpType} {x y q : Process} {ev : Event}
  {sent received : List Bytes}

/-- A step of the listener that takes nothing in. -/
theorem Listener.quiet (inv : Listener L message W type x y received)
    (alive : y.phase.alive = true) (heard : q.signaling.heard = y.signaling.heard)
    (peers : y.signaling.peers = 1 → q.signaling.peers = 1) :
    Listener L message W type x q.flushed received := by
  cases inv with
  | nothing none heard' => exact .nothing none (by simpa [heard] using heard')
  | rejected _ _ _ _ ended => simp [alive] at ended
  | accepted desc remote pushed said parsed peer heard' arrived count pushed_first pushed_all =>
      exact .accepted desc remote pushed said parsed (peers peer) (by simpa [heard] using heard')
        arrived count pushed_first fun _ => pushed_all (.inl alive)

/-- What the speaker says later does not change what was taken in. -/
theorem Listener.speaker_step (inv : Listener L message W type x y received)
    (speaker : Speaker L message x sent) (h : Local L message x ev q) :
    Listener L message W type q.flushed y received := by
  -- Once a message has arrived, the speaker can only add candidates.
  have later : ∀ desc ices, x.signaling.said = script L message desc ices →
      (q.signaling.said = x.signaling.said ∧ q.signaling.iceList = x.signaling.iceList) ∨
        ∃ ice, q.signaling.said = x.signaling.said ++ [.wsSend (some 0) (ice.toJsonString L)] ∧
          q.signaling.iceList = x.signaling.iceList ++ [ice] := by
    intro desc ices spoken
    cases h with
    | quiet same | failed same | closed same | withdrawn _ same | undescribed _ _ same
    | quit same => exact .inl ⟨by rw [same], by rw [same]⟩
    | described pending =>
        obtain ⟨-, -, -, said, -⟩ := speaker.told_of_pending pending
        exact absurd (spoken.symm.trans said) script_ne_nil
    | @candidate _ candidate _ gathers same =>
        cases speaker.told with
        | nothing said => exact absurd (spoken.symm.trans said) script_ne_nil
        | spoke _ peer => exact .inr ⟨Connection.toIce candidate, by simp [same, speaker.hdl peer],
            by rw [same]⟩
  cases inv with
  | nothing none heard => exact .nothing none heard
  | rejected desc ices said count ended heard =>
      rcases later desc ices said with ⟨said', -⟩ | ⟨ice, said', -⟩
      · exact .rejected desc ices (said'.trans said) count ended heard
      · exact .rejected desc (ices ++ [ice]) (by simp [said', said, script_append]) count ended
          heard
  | accepted desc remote pushed said parsed peer heard arrived count pushed_first pushed_all =>
      rcases later desc _ said with ⟨said', ices⟩ | ⟨ice, said', ices⟩
      · refine .accepted desc remote pushed ?_ parsed peer heard arrived ?_ ?_ ?_
        · simpa [said', ices] using said
        · simpa [ices] using count
        · simpa [ices] using pushed_first
        · simpa [ices] using pushed_all
      · have same : (x.signaling.iceList ++ [ice]).take (received.length - 1) =
            x.signaling.iceList.take (received.length - 1) :=
          List.take_append_of_le_length (by omega)
        refine .accepted desc remote pushed ?_ parsed peer heard arrived ?_ ?_ ?_
        · simp [said', said, ices, script_append]
        · simp only [Process.flushed_signaling, ices, List.length_append, List.length_singleton]
          omega
        · simpa [ices, same] using pushed_first
        · intro condition
          rw [Process.flushed_signaling, ices, same]
          refine pushed_all (condition.imp_right fun complete member => ?_)
          exact fun inside => complete member (by simp [ices, inside])

/-- Nobody has heard a side that has said nothing. -/
theorem Listener.of_silent (inv : Listener L message W type x y received)
    (said : x.signaling.said = []) : Listener L message W type q y received := by
  cases inv with
  | nothing empty heard => exact .nothing empty heard
  | rejected _ _ spoken => exact absurd (spoken.symm.trans said) script_ne_nil
  | accepted _ _ _ spoken => exact absurd (spoken.symm.trans said) script_ne_nil

/-- Nothing changes for the listener when the speaker says nothing more. -/
theorem Listener.of_same_speech (inv : Listener L message W type x y received)
    (said : q.signaling.said = x.signaling.said)
    (ices : q.signaling.iceList = x.signaling.iceList) :
    Listener L message W type q y received := by
  cases inv with
  | nothing empty heard => exact .nothing empty heard
  | rejected desc ices' spoken count ended heard =>
      exact .rejected desc ices' (said.trans spoken) count ended heard
  | accepted desc remote pushed spoken parsed peer heard arrived count pushed_first pushed_all =>
      refine .accepted desc remote pushed (by rw [said, spoken, ices]) parsed peer heard arrived
        (by rwa [ices]) (by rwa [ices]) (by rwa [ices])

/-- A listener that is alive has heard every message that reached it. -/
theorem Listener.heard_of_arrived (inv : Listener L message W type x y received)
    (arrived : received ≠ []) (alive : y.phase.alive = true) : y.signaling.heard ≠ [] := by
  cases inv with
  | nothing none => exact absurd none arrived
  | rejected _ _ _ _ ended => simp [alive] at ended
  | accepted _ _ _ _ _ _ heard => simp [heard]

/-- The message after those that arrived, in the list of all of them. -/
theorem next_payload (received : List Bytes) {rest xs : List Bytes} {payload : Bytes}
    (order : received ++ payload :: rest <+: xs) : xs[received.length]? = some payload := by
  obtain ⟨tail, rfl⟩ := order
  simp

/-- The first message that arrives is the description. -/
theorem Speaker.first_payload (speaker : Speaker L message x sent) {rest : List Bytes}
    {payload : Bytes} (order : payload :: rest <+: sent) :
    ∃ desc, x.signaling.said = script L message desc x.signaling.iceList ∧
      payload = message (utf8 desc.text) := by
  cases speaker.told with
  | nothing _ _ _ empty => simp [empty] at order
  | spoke desc _ _ said _ sent_first =>
      have first : (payloads L message desc x.signaling.iceList)[0]? = some payload :=
        next_payload [] (order.trans sent_first)
      exact ⟨desc, said, by simpa [payloads] using first.symm⟩

/-- The message after the description and `n` candidates is the next candidate. -/
theorem Speaker.later_payload (speaker : Speaker L message x sent) {rest : List Bytes}
    {payload : Bytes} (order : received ++ payload :: rest <+: sent) (arrived : received ≠ []) :
    ∃ ice, x.signaling.iceList[received.length - 1]? = some ice ∧ ice.IsText ∧
      payload = ice.toJsonString L := by
  cases speaker.told with
  | nothing _ _ _ empty => simp [empty] at order
  | spoke desc _ _ _ texts sent_first =>
      have next := next_payload received (order.trans sent_first)
      obtain ⟨n, length⟩ : ∃ n, received.length = n + 1 :=
        Nat.exists_eq_succ_of_ne_zero (by simpa using arrived)
      simp only [payloads, length, List.getElem?_cons_succ, List.getElem?_map,
        Option.map_eq_some_iff] at next
      obtain ⟨ice, found, eq⟩ := next
      exact ⟨ice, by simpa [length] using found, texts ice (List.mem_of_getElem? found), eq.symm⟩

/-- **One candidate reaches the listener.** It is pushed, or it cannot be read
and ends the process. -/
theorem Listener.candidate {m : Manager} {name key : Bytes} {take : Bytes → Prog Unit}
    {rest sent' : List Bytes} {payload : Bytes} (inv : Listener L message W type x y received)
    (handler : m.messageHandler = receive L W name key take) (other : utf8 "ice" ≠ name)
    (speaker : Speaker L message x sent) {message' : Bytes → Bytes}
    (self : Speaker L message' y sent') (order : received ++ payload :: rest <+: sent)
    (arrived : received ≠ []) (h : Process.step m y (.wsMessage 0 payload) = some q) :
    Listener L message W type x q.flushed (received ++ [payload]) ∧ q.conn = y.conn ∧
      ∃ heard, q.signaling = { y.signaling with wsHdl := some 0, heard := heard } := by
  have alive := Process.alive_of_step h
  obtain ⟨ice, found, text, rfl⟩ := speaker.later_payload order arrived
  cases inv with
  | nothing none => exact absurd none arrived
  | rejected _ _ _ _ ended => simp [alive] at ended
  | accepted desc remote pushed said parsed peer heard _ count pushed_first pushed_all =>
      have bound : received.length - 1 < x.signaling.iceList.length :=
        (List.getElem?_eq_some_iff.mp found).1
      have positive : received.length ≠ 0 := by simpa using arrived
      have grown : x.signaling.iceList.take (received.length - 1 + 1) =
          x.signaling.iceList.take (received.length - 1) ++ [ice] := by
        rw [List.take_add_one, found]; rfl
      have all := pushed_all (.inl alive)
      have index : (received ++ [ice.toJsonString L]).length - 1 = received.length - 1 + 1 := by
        simp only [List.length_append, List.length_singleton]; omega
      have count' : (received ++ [ice.toJsonString L]).length ≤ x.signaling.iceList.length + 1 := by
        simp only [List.length_append, List.length_singleton]; omega
      by_cases complete : ice.Complete
      · have read : dispatch L name key (ice.toJsonString L) = .ok (.ice ice) := by
          rw [dispatch_toJsonString other text, if_pos complete]
        obtain ⟨conn, same⟩ := signaling_ice handler read h
        have taken : pushed ++ [ice] = x.signaling.iceList.take (received.length - 1 + 1) := by
          rw [grown, all]
        refine ⟨.accepted desc remote (pushed ++ [ice]) said parsed (by simpa [same] using peer)
          ?_ (by simp) count' ⟨[], by rw [List.append_nil, index, taken]⟩
          (by rw [index]; exact fun _ => taken), conn, _, same⟩
        simp [same, heard, self.current alive peer]
      · have read : dispatch L name key (ice.toJsonString L) =
            .error (utf8 "Invalid json string for ICE.") := by
          rw [dispatch_toJsonString other text, if_neg complete]
        obtain ⟨ended, conn, same⟩ := signaling_unreadable handler read h
        refine ⟨.accepted desc remote pushed said parsed (by simpa [same] using peer)
          (by simpa [same] using heard) (by simp) count' ?_ ?_, conn, _, same⟩
        · rw [index, grown]
          exact pushed_first.trans (List.prefix_append _ _)
        · rintro (live | allComplete)
          · simp [ended] at live
          · exact absurd (allComplete ice (List.mem_of_getElem? found)) complete

/-- A delivered candidate leaves the listener's own side of the dialogue alone. -/
theorem Speaker.heard (inv : Speaker L message y sent) (alive : y.phase.alive = true)
    (conn : q.conn = y.conn) {heard : List Call}
    (same : q.signaling = { y.signaling with wsHdl := some 0, heard := heard }) :
    Speaker L message q.flushed (sent ++ q.signaling.outbox) :=
  inv.silent (by rw [same]) (by rw [same]) (by rw [same]) (by rw [same]) (by rw [same])
    (.inl (by rw [same])) (fun _ peer => by rw [same]; exact inv.current alive peer)
    (.inr (by rw [same])) (by rw [conn]; exact inv.fresh) (by rw [conn]; exact .inl)

end ListenerSteps

/-! ### The invariant of a session -/

/-- Both sides speak and listen as described; the client has a peer connection
while its connection is up, the server has none before the first offer; and a
direction is intact until its receiver's end is closed. -/
structure Session.Inv (Wc Ws : WebRtc) (s : Session) : Prop where
  client : Speaker L (offerMessage L) s.client s.toServer.sent
  server : Speaker L (answerMessage L) s.server s.toClient.sent
  toServer : Listener L (offerMessage L) Ws .offer s.client s.server s.toServer.received
  toClient : Listener L (answerMessage L) Wc .answer s.server s.client s.toClient.received
  clientPeer : s.client.phase.alive = true → s.client.conn = .open ∨ s.client.conn = .closing →
    s.client.signaling.peers = 1
  serverPeer : s.server.phase.alive = true → s.server.signaling.heard = [] →
    s.server.signaling.peers = 0
  serverLink : s.server.conn ≠ .closed → s.toServer.intact = true
  clientLink : s.client.conn ≠ .closed → s.toClient.intact = true

namespace Session

variable {L} {Wc Ws : WebRtc} {s : Session} {p : Process}

theorem inv_initial : Inv L Wc Ws initial where
  client := ⟨rfl, by decide, by decide, by decide, fun _ => rfl, .inl rfl, .nothing rfl rfl rfl rfl⟩
  server := ⟨rfl, by decide, by decide, by decide, fun _ => rfl, .inl rfl, .nothing rfl rfl rfl rfl⟩
  toServer := .nothing rfl rfl
  toClient := .nothing rfl rfl
  clientPeer _ present := by rcases present with h | h <;> cases h
  serverPeer _ _ := rfl
  serverLink _ := rfl
  clientLink _ := rfl

/-- The connection is up when a message arrives. -/
theorem present_of_message {m : Manager} {q : Process} {payload : Bytes}
    (h : Process.step m p (.wsMessage 0 payload) = some q) :
    p.conn = .open ∨ p.conn = .closing := by
  have enabled := (Process.step_eq_some h).1
  simp only [Event.enabled, decide_eq_true_eq] at enabled
  exact enabled.2

theorem Inv.client_open (inv : Inv L Wc Ws s)
    (h : Process.step (Client.manager L Wc) s.client (.wsOpen 0) = some p) :
    Inv L Wc Ws { s.withClient p with toClient := s.toClient } := by
  obtain ⟨absent, conn, same⟩ := Client.signaling_open h
  have alive := Process.alive_of_step h
  have none := inv.client.fresh absent
  obtain ⟨requests, said⟩ := inv.client.fresh_silent none
  have speaker : Speaker L (offerMessage L) p.flushed (s.toServer.sent ++ p.signaling.outbox) := by
    rcases same with same | ⟨ended, pc, peers, bound, same⟩
    · exact inv.client.begun none (by simp [conn]) same (by omega) (fun _ _ => by rw [none])
        (.inr ⟨by simp [requests, none], by omega⟩)
    · exact inv.client.begun none (by simp [conn]) same (by omega) (by simp [ended]) (.inl requests)
  have heard : p.signaling.heard = s.client.signaling.heard := by
    rcases same with same | ⟨-, pc, peers, -, same⟩ <;> rw [same]
  refine
    { client := by simpa using speaker
      server := inv.server
      toServer := by simpa using inv.toServer.of_silent said
      toClient := inv.toClient.quiet alive heard fun peer => by omega
      clientPeer := fun live _ => ?_
      serverPeer := inv.serverPeer
      serverLink := by simpa using inv.serverLink
      clientLink := fun _ => inv.clientLink (by simp [absent]) }
  rcases same with same | ⟨ended, -⟩
  · simp [same, none]
  · simp [ended] at live

theorem Inv.server_open (inv : Inv L Wc Ws s)
    (h : Process.step (Server.manager L Ws) s.server (.wsOpen 0) = some p) :
    Inv L Wc Ws { s.withServer p with toServer := s.toServer } := by
  obtain ⟨absent, conn, same⟩ := Server.signaling_open h
  have alive := Process.alive_of_step h
  have none := inv.server.fresh absent
  obtain ⟨requests, said⟩ := inv.server.fresh_silent none
  have speaker : Speaker L (answerMessage L) p.flushed (s.toClient.sent ++ p.signaling.outbox) :=
    inv.server.begun none (by simp [conn]) same inv.server.one (by simp [none]) (.inl requests)
  exact
    { client := inv.client
      server := by simpa using speaker
      toServer := inv.toServer.quiet alive (by rw [same]) fun peer => by rw [same]; exact peer
      toClient := by simpa using inv.toClient.of_silent said
      clientPeer := inv.clientPeer
      serverPeer := fun _ _ => by simp [same, none]
      serverLink := fun _ => inv.serverLink (by simp [absent])
      clientLink := by simpa using inv.clientLink }

theorem Inv.client_local (inv : Inv L Wc Ws s) {ev : Event} (isLocal : ev.isLocal = true)
    (h : Process.step (Client.manager L Wc) s.client ev = some p) :
    Inv L Wc Ws { s.withClient p with toClient := incoming s.toClient ev } := by
  have alive := Process.alive_of_step h
  have move := local_of_step (Client.speaks L Wc) isLocal h
  obtain ⟨heard, peers⟩ := move.heard_eq
  refine
    { client := by simpa using inv.client.local_step alive move
      server := by simpa using inv.server
      toServer := by simpa using inv.toServer.speaker_step inv.client move
      toClient := by simpa using inv.toClient.quiet alive heard (peers ▸ ·)
      clientPeer := fun _ up => peers.trans (inv.clientPeer alive (move.present up))
      serverPeer := inv.serverPeer
      serverLink := by simpa using inv.serverLink
      clientLink := fun present => ?_ }
  obtain ⟨before, going⟩ := move.going present
  simpa [incoming_of_going _ going] using inv.clientLink before

theorem Inv.server_local (inv : Inv L Wc Ws s) {ev : Event} (isLocal : ev.isLocal = true)
    (h : Process.step (Server.manager L Ws) s.server ev = some p) :
    Inv L Wc Ws { s.withServer p with toServer := incoming s.toServer ev } := by
  have alive := Process.alive_of_step h
  have move := local_of_step (Server.speaks L Ws) isLocal h
  obtain ⟨heard, peers⟩ := move.heard_eq
  refine
    { client := by simpa using inv.client
      server := by simpa using inv.server.local_step alive move
      toServer := by simpa using inv.toServer.quiet alive heard (peers ▸ ·)
      toClient := by simpa using inv.toClient.speaker_step inv.server move
      clientPeer := inv.clientPeer
      serverPeer := fun _ none => peers.trans (inv.serverPeer alive (heard.symm.trans none))
      serverLink := fun present => ?_
      clientLink := by simpa using inv.clientLink }
  obtain ⟨before, going⟩ := move.going present
  simpa [incoming_of_going _ going] using inv.serverLink before

/-- A direction still delivers what is next in it. -/
theorem order_of_pop {link rest : Fifo Bytes} {payload : Bytes}
    (popped : link.pop = some (payload, rest)) :
    link.received ++ payload :: rest.inFlight <+: link.sent := by
  obtain ⟨inFlight, -⟩ := Fifo.pop_eq_some popped
  exact inFlight ▸ link.ordered

/-- A message that reached the server. -/
theorem Inv.server_deliver (inv : Inv L Wc Ws s) {payload : Bytes} {rest : Fifo Bytes}
    (popped : s.toServer.pop = some (payload, rest))
    (h : Process.step (Server.manager L Ws) s.server (.wsMessage 0 payload) = some p) :
    Inv L Wc Ws { s.withServer p with toServer := rest } := by
  have alive := Process.alive_of_step h
  have order := order_of_pop popped
  obtain ⟨-, received, sent, intact⟩ := Fifo.pop_eq_some popped
  have assemble : p.conn = s.server.conn →
      Speaker L (answerMessage L) p.flushed (s.toClient.sent ++ p.signaling.outbox) →
      Listener L (offerMessage L) Ws .offer s.client p.flushed (s.toServer.received ++ [payload]) →
      Listener L (answerMessage L) Wc .answer p.flushed s.client s.toClient.received →
      (p.phase.alive = true → p.signaling.heard = [] → p.signaling.peers = 0) →
      Inv L Wc Ws { s.withServer p with toServer := rest } := by
    intro conn speaker listener heard peers
    exact
      { client := by simpa [sent] using inv.client
        server := by simpa using speaker
        toServer := by simpa [received] using listener
        toClient := by simpa using heard
        clientPeer := inv.clientPeer
        serverPeer := peers
        serverLink := fun present => intact.trans (inv.serverLink (conn ▸ present))
        clientLink := by simpa using inv.clientLink }
  by_cases first : s.toServer.received = []
  · -- The first message is the client's description.
    rw [first, List.nil_append] at order
    obtain ⟨desc, said, rfl⟩ := inv.client.first_payload order
    have unheard : s.server.signaling.heard = [] := by
      cases inv.toServer with
      | nothing _ heard => exact heard
      | rejected _ _ _ count => simp [first] at count
      | accepted _ _ _ _ _ _ _ arrived => exact absurd first arrived
    have none := inv.serverPeer alive unheard
    obtain ⟨requests, silent⟩ := inv.server.fresh_silent none
    obtain ⟨conn, outcome⟩ := Server.signaling_offer (Server.request_offerMessage desc.text) h
    have present : p.conn ≠ .absent := by
      rw [conn]
      rcases present_of_message h with up | up <;> simp [up]
    rcases outcome with ⟨remote, parsed, same⟩ | ⟨ended, pc, peers, heard, bound, head, same⟩
    · refine assemble conn (inv.server.begun none present same (by omega)
        (fun _ _ => by rw [none]) (.inr ⟨by simp [requests, none], by omega⟩)) ?_
        (inv.toClient.of_silent silent) (by simp [same])
      exact .accepted desc remote [] said parsed (by simp [same, none])
        (by simp [same, unheard, none]) (by simp) (by simp [first]) (by simp) (by simp [first])
    · refine assemble conn (inv.server.begun none present same (by omega) (by simp [ended])
        (.inl requests)) ?_ (inv.toClient.of_silent silent) (by simp [ended])
      exact .rejected desc _ said (by simp [first]) ended (by simpa [same, unheard] using head)
  · obtain ⟨listener, conn, heard, same⟩ :=
      inv.toServer.candidate rfl (by decide) inv.client inv.server order first h
    refine assemble conn (inv.server.heard alive conn same) listener ?_ ?_
    · exact inv.toClient.of_same_speech (by simp [same]) (by simp [same])
    · exact fun live unheard => absurd unheard (listener.heard_of_arrived (by simp) live)

/-- A message that reached the client. -/
theorem Inv.client_deliver (inv : Inv L Wc Ws s) {payload : Bytes} {rest : Fifo Bytes}
    (popped : s.toClient.pop = some (payload, rest))
    (h : Process.step (Client.manager L Wc) s.client (.wsMessage 0 payload) = some p) :
    Inv L Wc Ws { s.withClient p with toClient := rest } := by
  have alive := Process.alive_of_step h
  have order := order_of_pop popped
  have peer := inv.clientPeer alive (present_of_message h)
  obtain ⟨-, received, sent, intact⟩ := Fifo.pop_eq_some popped
  have assemble : ∀ heard : List Call, p.conn = s.client.conn →
      p.signaling = { s.client.signaling with wsHdl := some 0, heard := heard } →
      Listener L (answerMessage L) Wc .answer s.server p.flushed
        (s.toClient.received ++ [payload]) →
      Inv L Wc Ws { s.withClient p with toClient := rest } := by
    intro heard conn same listener
    have speech : Listener L (offerMessage L) Ws .offer p.flushed s.server s.toServer.received :=
      inv.toServer.of_same_speech (by simp [same]) (by simp [same])
    exact
      { client := by simpa using inv.client.heard alive conn same
        server := by simpa [sent] using inv.server
        toServer := by simpa using speech
        toClient := by simpa [received] using listener
        clientPeer := fun _ _ => by simpa [same] using peer
        serverPeer := inv.serverPeer
        serverLink := by simpa using inv.serverLink
        clientLink := fun present => intact.trans (inv.clientLink (conn ▸ present)) }
  by_cases first : s.toClient.received = []
  · -- The first message is the server's description.
    rw [first, List.nil_append] at order
    obtain ⟨desc, said, rfl⟩ := inv.server.first_payload order
    have unheard : s.client.signaling.heard = [] := by
      cases inv.toClient with
      | nothing _ heard => exact heard
      | rejected _ _ _ count => simp [first] at count
      | accepted _ _ _ _ _ _ _ arrived => exact absurd first arrived
    obtain ⟨conn, outcome⟩ := Client.signaling_answer (Client.request_answerMessage desc.text)
      (inv.client.current alive peer) h
    rcases outcome with ⟨remote, parsed, same⟩ | ⟨ended, same⟩
    · exact assemble _ conn same (.accepted desc remote [] said parsed (by simpa [same] using peer)
        (by simp [same, unheard]) (by simp) (by simp [first]) (by simp) (by simp [first]))
    · exact assemble _ conn same (.rejected desc _ said (by simp [first]) ended
        (by simp [same, unheard]))
  · obtain ⟨listener, conn, heard, same⟩ :=
      inv.toClient.candidate rfl (by decide) inv.server inv.client order first h
    exact assemble heard conn same listener

/-- **The invariant survives every action.** -/
theorem Inv.step (inv : Inv L Wc Ws s) {a : Action} {t : Session}
    (h : Session.step L Wc Ws s a = some t) : Inv L Wc Ws t := by
  rcases step_cases h with ⟨ev, p, rfl, solo, moved, rfl⟩ | ⟨ev, p, rfl, solo, moved, rfl⟩ |
    ⟨payload, rest, p, rfl, popped, moved, rfl⟩ | ⟨payload, rest, p, rfl, popped, moved, rfl⟩
  · rcases isLocal_of_isSolo solo with rfl | isLocal
    · exact inv.client_open moved
    · exact inv.client_local isLocal moved
  · rcases isLocal_of_isSolo solo with rfl | isLocal
    · exact inv.server_open moved
    · exact inv.server_local isLocal moved
  · exact inv.client_deliver popped moved
  · exact inv.server_deliver popped moved

theorem inv_of_reachable (reach : (machine L Wc Ws).Reachable s) : Inv L Wc Ws s :=
  reach.invariant inv_initial fun _ _ _ inv h => inv.step h

end Session

end WebrtcSample
