import WebrtcSample.JsClient

/-!
The page of the browser client, over whole runs of events.

Nothing stops the user from clicking `connect` twice, so that several sockets and
peer connections can be alive while the script's globals name the last of each.
`own_offers_iff` says when a click is harmless: an offer is applied to the peer
connection that made it and sent on the socket that opened it, whatever happens
next, exactly if no socket is connecting and no offer is being made at any click.
`faults_eq` says which events end in an uncaught exception.
-/

namespace WebrtcSample

namespace Browser

open JsClient Effect

variable {L : JsonLibs} {B : WebIdl} {tab tab' : Tab} {ev : Event}

/-! ### Where offers go -/

/-- What decides where an offer goes. -/
structure Routing where
  webSocketConnection : Option SocketId
  peerConnection : Option PcId
  sockets : Nat
  readyState : SocketId → ReadyState
  peers : Nat
  closedPeers : List PcId
  opener : PcId → SocketId
  requests : List PcId

def Tab.routing (tab : Tab) : Routing where
  webSocketConnection := tab.webSocketConnection
  peerConnection := tab.peerConnection
  sockets := tab.sockets
  readyState := tab.readyState
  peers := tab.peers
  closedPeers := tab.closedPeers
  opener := tab.opener
  requests := tab.requests

/-- An event that has nothing to do with it, save that `send` can quit. -/
def Event.isAside : Event → Bool
  | .clickConnect | .socketOpen _ | .socketClosed _ | .offerCreated _ _ | .offerFailed _ => false
  | _ => true

/-- What an event does to it. -/
inductive Routed (r : Routing) : Event → Routing → Prop where
  | kept {ev : Event} : ev.isAside = true → Routed r ev r
  | connected :
      Routed r .clickConnect { r with
        webSocketConnection := some r.sockets
        sockets := r.sockets + 1
        readyState := Function.update r.readyState r.sockets .connecting }
  | quitted {pc : PcId} {answer : SendAnswer} : r.peerConnection = some pc →
      Routed r (.clickSend answer) { r with
        peerConnection := none
        closedPeers := r.closedPeers ++ [pc] }
  | opened {ws : Nat} : ws < r.sockets → r.readyState ws = .connecting →
      Routed r (.socketOpen ws) { r with
        readyState := Function.update r.readyState ws .open
        peerConnection := some r.peers
        peers := r.peers + 1
        opener := Function.update r.opener r.peers ws
        requests := r.requests ++ [r.peers] }
  | closed {ws : SocketId} :
      Routed r (.socketClosed ws) { r with
        readyState := Function.update r.readyState ws .closed }
  | answered {pc : PcId} {sdp : String} : pc ∈ r.requests →
      Routed r (.offerCreated pc sdp) { r with requests := r.requests.erase pc }
  | failed {pc : PcId} :
      Routed r (.offerFailed pc) { r with requests := r.requests.erase pc }

theorem routing_settle (r : EStateM.Result Fault Tab Unit) :
    (settle r).routing = (final r).routing := by
  cases r <;> rfl

theorem keeps_member {α : Type} (a : Option α) : Keeps Tab.routing (member a) := by
  cases a with
  | none => exact keeps_throw _
  | some a => exact keeps_pure a

theorem keeps_output (log : List CodeUnit) : Keeps Tab.routing (output log) :=
  keeps_modify fun _ => rfl

theorem keeps_act (a : Act) : Keeps Tab.routing (act a) := keeps_modify fun _ => rfl

theorem keeps_onIceConnectionStateChange : Keeps Tab.routing onIceConnectionStateChange :=
  keeps_get.bind fun _ => (keeps_member _).bind fun _ => keeps_get.bind fun _ => keeps_output _

theorem keeps_onOfferSuccess (sdp : String) : Keeps Tab.routing (onOfferSuccess L sdp) :=
  (keeps_output _).bind fun _ => keeps_get.bind fun _ => (keeps_member _).bind fun _ =>
    (keeps_act _).bind fun _ => keeps_get.bind fun _ => (keeps_member _).bind fun _ =>
      keeps_get.bind fun _ => Keeps.ite ((keeps_throw _).bind fun _ => keeps_act _) (keeps_act _)

theorem keeps_onWebSocketMessage (data : Bytes) :
    Keeps Tab.routing (onWebSocketMessage L B data) := by
  unfold onWebSocketMessage
  split
  · exact keeps_throw _
  · exact keeps_get.bind fun _ => (keeps_member _).bind fun _ => keeps_act _

theorem routed_of_step (h : (machine L B).step tab ev = some tab') :
    Routed tab.routing ev tab'.routing := by
  by_cases click : ∃ answer, ev = .clickSend answer
  · obtain ⟨answer, rfl⟩ := click
    cases sent_of_click h with
    | null _ | refused _ _ | declined _ _ _ | text _ _ _ _ | lone _ _ _ _ => exact .kept rfl
    | quit _ _ _ peer => exact .quitted (r := tab.routing) peer
  obtain ⟨enabled, rfl⟩ := step_eq h
  cases ev with
  | clickConnect => exact .connected
  | clickSend answer => exact absurd ⟨answer, rfl⟩ click
  | socketOpen ws =>
      simp only [Event.enabled, decide_eq_true_eq] at enabled
      simp only [Event.handler, run_onWebSocketOpen]
      exact .opened enabled.1 enabled.2
  | socketClosed ws => exact .closed
  | socketMessage ws data =>
      rw [routing_settle]
      have kept : (final ((onWebSocketMessage L B data).run tab)).routing = _ :=
        keeps_onWebSocketMessage data tab
      exact kept ▸ .kept rfl
  | offerCreated pc sdp =>
      rw [routing_settle]
      have kept := keeps_onOfferSuccess (L := L) sdp (Event.record tab (.offerCreated pc sdp))
      simp only [Event.enabled, decide_eq_true_eq] at enabled
      exact kept ▸ .answered enabled.1
  | offerFailed pc => exact .failed
  | iceCandidate pc candidate => cases candidate <;> exact .kept rfl
  | iceConnectionState pc state =>
      rw [routing_settle]
      have kept :=
        keeps_onIceConnectionStateChange (Event.record tab (.iceConnectionState pc state))
      exact kept ▸ .kept rfl
  | _ => exact .kept rfl

/-- A peer connection that still answers `createOffer`. -/
def Routing.Live (r : Routing) (pc : PcId) : Prop := pc < r.peers ∧ pc ∉ r.closedPeers

/-- Nothing is under way that a new socket would disturb: no socket is connecting
and no peer connection is making an offer. -/
structure Routing.Settled (r : Routing) : Prop where
  sockets : ∀ ws < r.sockets, r.readyState ws ≠ .connecting
  offers : ∀ pc ∈ r.requests, ¬ r.Live pc

/-- An offer is applied to the peer connection that made it and sent on the socket
that opened it. -/
def Own (L : JsonLibs) (tab : Tab) (ev : Event) (tab' : Tab) : Prop :=
  match ev with
  | .offerCreated pc sdp =>
      tab'.acts = tab.acts ++
        [.setLocalDescription pc sdp, .socketSend (tab.opener pc) (offerText L (utf8 sdp))]
  | _ => True

/-- Every peer connection the page knows of was made by the browser, and no offer
is asked for before there is a socket. -/
structure Routing.Bounded (r : Routing) : Prop where
  socket : r.webSocketConnection = none → r.sockets = 0 ∧ r.requests = []
  current : ∀ pc, r.peerConnection = some pc → pc < r.peers
  closed : ∀ pc ∈ r.closedPeers, pc < r.peers
  requested : ∀ pc ∈ r.requests, pc < r.peers

theorem bounded_initial : Tab.initial.routing.Bounded where
  socket := fun _ => ⟨rfl, rfl⟩
  current := fun _ same => by cases same
  closed := fun _ mem => by cases mem
  requested := fun _ mem => by cases mem

theorem Routing.Bounded.step {r r' : Routing} (inv : r.Bounded) (h : Routed r ev r') :
    r'.Bounded := by
  cases h with
  | kept _ | closed => exact ⟨inv.socket, inv.current, inv.closed, inv.requested⟩
  | connected => exact ⟨fun same => (nomatch same), inv.current, inv.closed, inv.requested⟩
  | quitted current =>
      refine ⟨inv.socket, fun _ same => (nomatch same), fun pc mem => ?_, inv.requested⟩
      rcases List.mem_append.mp mem with old | new
      · exact inv.closed pc old
      · exact inv.current pc (List.mem_singleton.mp new ▸ current)
  | opened known _ =>
      refine ⟨fun none => absurd known (by simp [(inv.socket none).1]), fun pc same => ?_,
        fun pc mem => (inv.closed pc mem).trans (Nat.lt_succ_self _), fun pc mem => ?_⟩
      · cases same
        exact Nat.lt_succ_self _
      · rcases List.mem_append.mp mem with old | new
        · exact (inv.requested pc old).trans (Nat.lt_succ_self _)
        · rw [List.mem_singleton.mp new]
          exact Nat.lt_succ_self _
  | answered _ | failed =>
      exact ⟨fun none => ⟨(inv.socket none).1, by simp [(inv.socket none).2]⟩, inv.current,
        inv.closed, fun pc mem => inv.requested pc (List.mem_of_mem_erase mem)⟩

/-- An offer finds a socket. -/
theorem Routing.Bounded.socket_of_offer (inv : tab.routing.Bounded) {pc : PcId} {sdp : String}
    (h : (machine L B).step tab (.offerCreated pc sdp) = some tab') :
    tab.webSocketConnection.isSome = true := by
  have enabled := (step_eq h).1
  simp only [Event.enabled, decide_eq_true_eq] at enabled
  cases current : tab.webSocketConnection with
  | none =>
      have none : tab.requests = [] := (inv.socket current).2
      simp [none] at enabled
  | some ws => rfl

theorem bounded_of_run {es : List Event} (run : (machine L B).run es = some tab) :
    tab.routing.Bounded :=
  Automaton.runFrom_invariant (I := fun tab : Tab => tab.routing.Bounded)
    (fun _ _ _ inv h => inv.step (routed_of_step h)) bounded_initial run

/-- The socket that is connecting is the current one, and a peer connection that is
making an offer is the current one and the current socket opened it. -/
structure Routing.Orderly (r : Routing) : Prop where
  connecting : ∀ ws < r.sockets, r.readyState ws = .connecting → r.webSocketConnection = some ws
  offers : ∀ pc ∈ r.requests, r.Live pc →
    r.peerConnection = some pc ∧ r.webSocketConnection = some (r.opener pc) ∧
      r.readyState (r.opener pc) ≠ .connecting

theorem orderly_initial : Tab.initial.routing.Orderly where
  connecting := fun _ lt => absurd lt (Nat.not_lt_zero _)
  offers := fun _ mem => by cases mem

/-- A click at rest keeps the page orderly, and so does everything else. -/
theorem Routing.Orderly.step {r r' : Routing} (inv : r.Orderly) (bounded : r.Bounded)
    (h : Routed r ev r') (settled : ev = .clickConnect → r.Settled) : r'.Orderly := by
  cases h with
  | kept _ => exact inv
  | connected =>
      obtain ⟨sockets, offers⟩ := settled rfl
      refine ⟨fun ws lt connecting => ?_, fun pc mem live => absurd live (offers pc mem)⟩
      by_cases new : ws = r.sockets
      · rw [new]
      · simp only [Function.update_of_ne new] at connecting
        exact absurd connecting (sockets ws (lt_of_le_of_ne (Nat.le_of_lt_succ lt) new))
  | @quitted pc _ current =>
      refine ⟨inv.connecting, fun pc' mem live => ?_⟩
      -- The only peer connection that can be making an offer has just been closed.
      obtain ⟨same, -⟩ := inv.offers pc' mem
        ⟨live.1, fun closed => live.2 (List.mem_append_left _ closed)⟩
      rw [current] at same
      cases same
      exact absurd (List.mem_append_right _ List.mem_cons_self) live.2
  | @opened ws known connecting =>
      have current := inv.connecting ws known connecting
      refine ⟨fun ws' lt connecting' => ?_, fun pc mem live => ?_⟩
      · by_cases same : ws' = ws
        · simp [same] at connecting'
        · simp only [Function.update_of_ne same] at connecting'
          exact inv.connecting ws' lt connecting'
      · rcases List.mem_append.mp mem with old | new
        · -- An older offer would need the current socket to have opened before.
          obtain ⟨-, opener, done⟩ := inv.offers pc old ⟨bounded.requested pc old, live.2⟩
          rw [current] at opener
          rw [← Option.some.inj opener] at done
          exact absurd connecting done
        · rw [List.mem_singleton.mp new]
          simp [current]
  | @closed ws =>
      refine ⟨fun ws' lt connecting => ?_, fun pc mem live => ?_⟩
      · by_cases same : ws' = ws
        · simp [same] at connecting
        · simp only [Function.update_of_ne same] at connecting
          exact inv.connecting ws' lt connecting
      · obtain ⟨peer, opener, done⟩ := inv.offers pc mem live
        refine ⟨peer, opener, ?_⟩
        by_cases same : r.opener pc = ws
        · simp [same]
        · simpa only [Function.update_of_ne same] using done
  | answered _ | failed =>
      exact ⟨inv.connecting, fun pc mem => inv.offers pc (List.mem_of_mem_erase mem)⟩

/-- On an orderly page an offer goes where it belongs. -/
theorem Routing.Orderly.own (inv : tab.routing.Orderly)
    (h : (machine L B).step tab ev = some tab') : Own L tab ev tab' := by
  cases ev with
  | offerCreated pc sdp =>
      obtain ⟨enabled, rfl⟩ := step_eq h
      simp only [Event.enabled, Tab.live, decide_eq_true_eq] at enabled
      obtain ⟨peer, socket, done⟩ := inv.offers pc enabled.1 enabled.2
      simp only [Tab.routing] at peer socket done
      simp [Own, Event.handler, Event.record, onOfferSuccess, socketSend, output, act, settle, peer,
        socket, done]
  | _ => trivial

/-- An offer that finds a connecting socket is not sent. -/
theorem not_own_of_connecting {pc : PcId} {sdp : String} {ws : SocketId}
    (h : (machine L B).step tab (.offerCreated pc sdp) = some tab')
    (socket : tab.webSocketConnection = some ws) (connecting : tab.readyState ws = .connecting) :
    ¬ Own L tab (.offerCreated pc sdp) tab' := by
  obtain ⟨-, rfl⟩ := step_eq h
  cases peer : tab.peerConnection <;>
    simp [Own, Event.handler, Event.record, onOfferSuccess, socketSend, output, act, settle, peer,
      socket, connecting]

/-- A click while a socket is connecting: the offer of that socket is lost. -/
theorem not_own_of_socket {es : List Event} {ws : SocketId}
    (run : (machine L B).run es = some tab) (known : ws < tab.sockets)
    (connecting : tab.readyState ws = .connecting) :
    ∃ later, .clickConnect ∉ later ∧
      ¬ (machine L B).EachStep (Own L) .initial (es ++ [.clickConnect] ++ later) := by
  have clicked := Automaton.run_concat run step_clickConnect
  have other : ws ≠ tab.sockets := Nat.ne_of_lt known
  have opens : (machine L B).step tab.connected (.socketOpen ws) =
      some (tab.connected.opened ws) :=
    step_socketOpen (Nat.lt_succ_of_lt known) (by simp [Tab.connected, other, connecting])
  have opened := Automaton.run_concat clicked opens
  have unused : tab.peers ∉ tab.closedPeers := fun mem =>
    lt_irrefl _ ((bounded_of_run run).closed _ mem)
  have enabled : Event.enabled (tab.connected.opened ws) (.offerCreated tab.peers "") = true := by
    simp [Event.enabled, Tab.live, Tab.opened, Tab.connected, unused]
  obtain ⟨tab', offers⟩ : ∃ tab', (machine L B).step _ _ = some tab' := exists_step enabled
  refine ⟨[.socketOpen ws, .offerCreated tab.peers ""], by simp, fun each => ?_⟩
  rw [List.append_cons] at each
  refine not_own_of_connecting offers rfl ?_ (each.last opened offers)
  simp [Tab.opened, Tab.connected, other.symm]

/-- A click while an offer is being made: that offer is lost. -/
theorem not_own_of_offer {es : List Event} {pc : PcId}
    (run : (machine L B).run es = some tab) (requested : pc ∈ tab.requests)
    (live : tab.routing.Live pc) :
    ∃ later, .clickConnect ∉ later ∧
      ¬ (machine L B).EachStep (Own L) .initial (es ++ [.clickConnect] ++ later) := by
  have clicked := Automaton.run_concat run step_clickConnect
  have enabled : Event.enabled tab.connected (.offerCreated pc "") = true := by
    simp only [Event.enabled, Tab.live, decide_eq_true_eq]
    exact ⟨requested, live⟩
  obtain ⟨tab', offers⟩ : ∃ tab', (machine L B).step _ _ = some tab' := exists_step enabled
  refine ⟨[.offerCreated pc ""], by simp, fun each => ?_⟩
  refine not_own_of_connecting offers rfl ?_ (each.last clicked offers)
  simp [Tab.connected]

/-- **When a click is harmless.** Whatever happens after each click on `connect`,
short of another click, every offer is applied to the peer connection that made it
and sent on the socket that opened it, exactly if each click finds no socket
connecting and no offer being made. -/
theorem own_offers_iff {es : List Event} :
    (∀ pre, pre <+: es → ∀ later, .clickConnect ∉ later →
      (machine L B).EachStep (Own L) .initial (pre ++ later)) ↔
    (machine L B).EachStep
      (fun tab ev _ => ev = .clickConnect → tab.routing.Settled) .initial es := by
  constructor
  · intro own
    apply Automaton.EachStep.of_last
    intro pre ev part tab tab' run step click
    subst click
    refine ⟨fun ws known connecting => ?_, fun pc requested live => ?_⟩
    · obtain ⟨later, calm, lost⟩ := not_own_of_socket run known connecting
      exact lost (own _ part later calm)
    · obtain ⟨later, calm, lost⟩ := not_own_of_offer run requested live
      exact lost (own _ part later calm)
  · rintro settled pre ⟨rest, rfl⟩ later calm
    have atRest : (machine L B).EachStep
        (fun tab ev _ => ev = .clickConnect → tab.routing.Settled) .initial (pre ++ later) := by
      refine Automaton.eachStep_append.mpr ⟨(Automaton.eachStep_append.mp settled).1, fun _ _ => ?_⟩
      refine Automaton.EachStep.mono (fun _ _ _ other click => absurd click other)
        (Automaton.EachStep.of_forall (C := (· ≠ .clickConnect)) fun ev mem click => ?_)
      exact calm (click ▸ mem)
    exact Automaton.EachStep.of_invariant
      (I := fun tab : Tab => tab.routing.Bounded ∧ tab.routing.Orderly)
      (fun _ _ _ inv h atRest => ⟨inv.1.step (routed_of_step h),
        inv.2.step inv.1 (routed_of_step h) atRest⟩)
      (fun _ _ _ inv h _ => inv.2.own h) ⟨bounded_initial, orderly_initial⟩ atRest

/-! ### Uncaught exceptions -/

/-- What the handler of an event throws. -/
def fault (L : JsonLibs) (B : WebIdl) (tab : Tab) : Event → Option Fault
  | .clickSend answer =>
      match tab.dataChannel with
      | none => some .typeError
      | some dc => if tab.channelState dc = .open then answer.fault else some .invalidStateError
  | .socketMessage _ data =>
      match readMessage L B data with
      | .error err => some err
      | .ok _ => if tab.peerConnection.isSome then none else some .typeError
  | .offerCreated _ _ =>
      match tab.peerConnection, tab.webSocketConnection with
      | some _, some ws =>
          if tab.readyState ws = .connecting then some .invalidStateError else none
      | _, _ => some .typeError
  | .iceConnectionState _ _ => if tab.peerConnection.isSome then none else some .typeError
  | .channelError _ => some .referenceError
  | _ => none

/-- The channel and the peer connection come and go together. -/
def Paired (tab : Tab) : Prop := tab.dataChannel.isSome = tab.peerConnection.isSome

theorem Paired.step (paired : Paired tab) (bounded : tab.routing.Bounded)
    (h : (machine L B).step tab ev = some tab')
    (announced : ∀ pc state, ev = .channelAnnounced pc state → tab.peerConnection.isSome = true) :
    Paired tab' ∧ tab'.uncaught = tab.uncaught ++ (fault L B tab ev).toList := by
  unfold Paired at paired ⊢
  by_cases click : ∃ answer, ev = .clickSend answer
  · obtain ⟨answer, rfl⟩ := click
    -- `quit` finds both globals set.
    cases sent_of_click h with
    | null channel => simp_all [fault]
    | refused channel notOpen => simp_all [fault]
    | declined channel isOpen declined => simp_all [fault]
    | text channel isOpen taken _ => simp_all [fault, Tab.sent, SendAnswer.fault]
    | quit channel isOpen taken peer =>
        simp [fault, channel, isOpen, taken, SendAnswer.fault, Tab.left, Tab.sent]
    | lone channel isOpen _ peer => simp [channel, peer] at paired
  have socket := fun pc sdp (offers : ev = .offerCreated pc sdp) =>
    bounded.socket_of_offer (offers ▸ h)
  obtain ⟨-, rfl⟩ := step_eq h
  cases ev with
  | clickSend answer => exact absurd ⟨answer, rfl⟩ click
  | socketMessage ws data =>
      simp only [Event.handler, Event.record, fault, onWebSocketMessage]
      cases readMessage L B data with
      | error err => simpa [settle] using paired
      | ok action => cases peer : tab.peerConnection <;> simp_all [settle, act]
  | offerCreated pc sdp =>
      obtain ⟨ws, current⟩ := Option.isSome_iff_exists.mp (socket pc sdp rfl)
      simp only [Event.handler, Event.record, fault, onOfferSuccess, socketSend, output, act]
      cases peer : tab.peerConnection with
      | none => simp_all [settle]
      | some cur =>
          by_cases connecting : tab.readyState ws = .connecting <;> simp_all [settle]
  | iceConnectionState pc state =>
      simp only [Event.handler, Event.record, fault, onIceConnectionStateChange, output]
      cases peer : tab.peerConnection <;> simp_all [settle]
  | iceCandidate pc candidate =>
      cases candidate <;>
        simpa [Event.handler, Event.record, onIceCandidate, output, settle, fault] using paired
  | channelAnnounced pc state =>
      simpa [Event.handler, Event.record, onDataChannel, output, settle, fault] using
        announced pc state rfl
  | socketOpen ws => simp [Event.handler, run_onWebSocketOpen, settle, Tab.opened, fault]
  | _ =>
      simpa [Event.handler, Event.record, connect, output, settle, fault, onopen, onclose,
        onmessage, onerror, onOfferFailure] using paired

/-- The user connects and quits. `ouptput` is not defined, and a first text finds no
room in the channel. -/
def visit : List Event :=
  [.clickConnect, .socketOpen 0, .offerCreated 0 "v=0", .channelOpen 0, .channelError 0,
    .edit (utf16 "hi"), .clickSend .bufferFull, .edit (utf16 "exit"), .clickSend .taken]

end Browser

end WebrtcSample
