import WebrtcSample.Dialogue

/-!
Candidates on their way: none is lost, duplicated or reordered.

While both ends of the connection are open, the candidates a side has pushed and
those still in flight towards it make up the other side's `ice_list_`, in order.
Whatever happens to the connection, the pushed ones are a prefix of that list.
-/

namespace WebrtcSample

open Prog Effect WebRtcManager

/-- The candidate of a `push_ice`. -/
def Call.pushed? : Call → Option Ice
  | .pushIce _ ice => some ice
  | _ => none

/-- The candidates passed to `push_ice` so far. -/
def pushedIces (p : Process) : List Ice := p.state.calls.filterMap Call.pushed?

/-- The candidates among some messages. -/
def icesOf (L : JsonLibs) (messages : List Bytes) : List Ice :=
  messages.filterMap fun m => (Ice.fromJsonString L m).toOption

/-- Both ends of the connection are open. -/
def Session.isOpen (s : Session) : Prop := s.client.conn = .open ∧ s.server.conn = .open

/-- What libwebrtc reports for a gathered candidate: no empty string, and the
index of an m-line. -/
def IceCandidate.WellFormed (c : IceCandidate) : Prop :=
  c.candidate ≠ "" ∧ c.sdpMid ≠ "" ∧ 0 ≤ c.sdpMlineIndex

/-- Every candidate reported in these actions is well formed. -/
def ReportsWellFormed (es : List Action) : Prop :=
  ∀ side pc candidate, Action.act side (.callback (.iceCandidate pc candidate)) ∈ es →
    candidate.WellFormed

/-! ### One direction -/

section Direction

variable {L : JsonLibs} {message : Bytes → Bytes} {W : WebRtc} {type : SdpType} {x y : Process}
  {sent received : List Bytes}

theorem pushedIces_eq (p : Process) :
    pushedIces p = p.signaling.heard.filterMap Call.pushed? := by
  show _ = (p.state.calls.filter Call.isHeard).filterMap Call.pushed?
  rw [List.filterMap_filter]
  refine List.filterMap_congr fun c _ => ?_
  cases c <;> rfl

theorem filterMap_pushIce (ices : List Ice) :
    (ices.map fun ice => Call.pushIce (some 0) ice).filterMap Call.pushed? = ices := by
  rw [List.filterMap_map]
  exact List.filterMap_some

/-- The listener has pushed the candidates that reached it. -/
theorem Listener.pushedIces (inv : Listener L message W type x y received) :
    pushedIces y <+: x.signaling.iceList.take (received.length - 1) ∧
      ((∀ ice ∈ x.signaling.iceList, ice.Complete) →
        pushedIces y = x.signaling.iceList.take (received.length - 1)) := by
  rw [pushedIces_eq]
  cases inv with
  | nothing none heard => simp [none, heard]
  | rejected _ _ _ count _ heard =>
      rcases List.prefix_cons_iff.mp heard with empty | ⟨rest, eq, tail⟩
      · simp [empty, count]
      · simp [eq, List.prefix_nil.mp tail, count, Call.pushed?]
  | accepted _ _ pushed _ _ _ heard _ _ pushed_first pushed_all =>
      have eq : y.signaling.heard.filterMap Call.pushed? = pushed := by
        rw [heard, List.filterMap_append, filterMap_pushIce]
        rfl
      rw [eq]
      exact ⟨pushed_first, fun complete => pushed_all (.inr complete)⟩

/-- Candidates are found again among the messages that carry them. -/
theorem icesOf_toJsonString {ices : List Ice} (texts : ∀ ice ∈ ices, ice.IsText)
    (complete : ∀ ice ∈ ices, ice.Complete) :
    icesOf L (ices.map fun ice => ice.toJsonString L) = ices := by
  induction ices with
  | nil => rfl
  | cons ice ices ih =>
      have head : Ice.fromJsonString L (ice.toJsonString L) = .ok ice := by
        rw [Ice.fromJsonString_toJsonString (texts ice (by simp)), if_pos (complete ice (by simp))]
      have tail := ih (fun i h => texts i (by simp [h])) (fun i h => complete i (by simp [h]))
      simp only [icesOf, List.map_cons, List.filterMap_cons, head, Except.toOption]
      exact congrArg _ tail

/-- **No candidate is lost, duplicated or reordered** on its way from a speaker
whose connection is open to a listener whose end has not closed. -/
theorem pushed_append_inFlight {link : Fifo Bytes} (speaker : Speaker L message x link.sent)
    (listener : Listener L message W type x y link.received)
    (other : ∀ text, (Ice.fromJsonString L (message (utf8 text))).toOption = none)
    (complete : ∀ ice ∈ x.signaling.iceList, ice.Complete) (isOpen : x.conn = .open)
    (intact : link.intact = true) :
    pushedIces y ++ icesOf L link.inFlight = x.signaling.iceList := by
  rw [listener.pushedIces.2 complete]
  have whole := link.intact_eq intact
  cases speaker.told with
  | nothing _ ices _ sent =>
      rw [sent, List.append_eq_nil_iff] at whole
      simp [whole.2, ices, icesOf]
  | spoke desc _ _ _ texts _ sent_all =>
      rw [sent_all isOpen] at whole
      cases received : link.received with
      | nil =>
          rw [received, List.nil_append] at whole
          have skip : icesOf L (payloads L message desc x.signaling.iceList) =
              icesOf L (x.signaling.iceList.map fun ice => ice.toJsonString L) := by
            simp [icesOf, payloads, other]
          simp [whole, skip, icesOf_toJsonString texts complete]
      | cons first more =>
          rw [received, payloads, List.cons_append, List.cons.injEq] at whole
          have rest : link.inFlight =
              (x.signaling.iceList.drop more.length).map fun ice => ice.toJsonString L := by
            rw [List.map_drop, ← whole.2, List.drop_left]
          have back := icesOf_toJsonString (L := L)
            (fun ice h => texts ice (List.mem_of_mem_drop h))
            (fun ice (h : ice ∈ x.signaling.iceList.drop more.length) =>
              complete ice (List.mem_of_mem_drop h))
          rw [rest, back]
          simp

end Direction

/-! ### The candidate list -/

section IceList

variable {L : JsonLibs} {p q : Process}

/-- A local step adds a reported candidate, or none. -/
theorem Local.iceList {message : Bytes → Bytes} {ev : Event} (h : Local L message p ev q) :
    q.signaling.iceList = p.signaling.iceList ∨
      ∃ pc candidate, ev = .callback (.iceCandidate pc candidate) ∧
        q.signaling.iceList = p.signaling.iceList ++ [Connection.toIce candidate] := by
  cases h with
  | quiet same | failed same | closed same | withdrawn _ same | described _ _ same
  | undescribed _ _ same | quit same => exact .inl (by rw [same])
  | candidate _ same => exact .inr ⟨_, _, rfl, by rw [same]⟩

theorem IceCandidate.WellFormed.complete {c : IceCandidate} (h : c.WellFormed) :
    (Connection.toIce c).Complete := by
  obtain ⟨candidate, mid, index⟩ := h
  refine ⟨utf8_ne_nil candidate, utf8_ne_nil mid, ?_⟩
  intro eq
  have value : c.sdpMlineIndex = -1 := eq
  rw [value] at index
  exact absurd index (by decide)

end IceList

namespace Session

variable {L : JsonLibs} {Wc Ws : WebRtc} {s t : Session}

/-- Every candidate in either list is complete. -/
def AllComplete (s : Session) : Prop :=
  (∀ ice ∈ s.client.signaling.iceList, ice.Complete) ∧
    ∀ ice ∈ s.server.signaling.iceList, ice.Complete

/-- Well-formed reports keep both lists complete. -/
theorem AllComplete.step (all : AllComplete s) (inv : Inv L Wc Ws s) {a : Action}
    (h : Session.step L Wc Ws s a = some t)
    (reported : ∀ side pc candidate, a = .act side (.callback (.iceCandidate pc candidate)) →
      candidate.WellFormed) : AllComplete t := by
  -- Only a reported candidate can be new in a list.
  have grown : ∀ {message : Bytes → Bytes} {p q : Process} {ev : Event} {side : Side},
      a = .act side ev → Local L message p ev q → (∀ ice ∈ p.signaling.iceList, ice.Complete) →
      ∀ ice ∈ q.signaling.iceList, ice.Complete := by
    intro message p q ev side eq move before ice member
    rcases move.iceList with same | ⟨pc, candidate, rfl, same⟩
    · exact before ice (same ▸ member)
    · rcases List.mem_append.mp (same ▸ member) with old | new
      · exact before ice old
      · rw [List.mem_singleton.mp new]
        exact (reported side pc candidate eq).complete
  rcases step_cases h with ⟨ev, p, rfl, solo, moved, rfl⟩ | ⟨ev, p, rfl, solo, moved, rfl⟩ |
    ⟨payload, rest, p, rfl, popped, moved, rfl⟩ | ⟨payload, rest, p, rfl, popped, moved, rfl⟩
  · refine ⟨?_, all.2⟩
    rcases isLocal_of_isSolo solo with rfl | isLocal
    · obtain ⟨-, -, same | ⟨-, pc, peers, -, same⟩⟩ := Client.signaling_open moved <;>
        simpa [same] using all.1
    · simpa using grown rfl (local_of_step (Client.speaks L Wc) isLocal moved) all.1
  · refine ⟨all.1, ?_⟩
    rcases isLocal_of_isSolo solo with rfl | isLocal
    · obtain ⟨-, -, same⟩ := Server.signaling_open moved
      simpa [same] using all.2
    · simpa using grown rfl (local_of_step (Server.speaks L Ws) isLocal moved) all.2
  · have alive := Process.alive_of_step moved
    have current := inv.client.current alive (inv.clientPeer alive (present_of_message moved))
    obtain ⟨heard, same⟩ := Client.signaling_message current moved
    exact ⟨by simpa [same] using all.1, all.2⟩
  · exact ⟨all.1, by simpa [Server.signaling_message moved] using all.2⟩

/-- A run that reports only well-formed candidates keeps both lists complete. -/
theorem allComplete_of_run {es : List Action} (run : (machine L Wc Ws).run es = some s)
    (reported : ReportsWellFormed es) : AllComplete s := by
  have both : Inv L Wc Ws s ∧ AllComplete s := by
    refine Automaton.EachStep.invariant (A := machine L Wc Ws)
      (I := fun s => Inv L Wc Ws s ∧ AllComplete s) ?_ ⟨inv_initial, ?_⟩
      (.of_forall (C := fun a => ∀ side pc candidate,
        a = .act side (.callback (.iceCandidate pc candidate)) → candidate.WellFormed) ?_) run
    · rintro s a t ⟨inv, all⟩ step good
      exact ⟨inv.step step, all.step inv step good⟩
    · exact ⟨fun _ h => absurd h List.not_mem_nil, fun _ h => absurd h List.not_mem_nil⟩
    · rintro a member side pc candidate rfl
      exact reported side pc candidate member
  exact both.2

end Session

theorem offerMessage_not_ice (L : JsonLibs) (text : String) :
    (Ice.fromJsonString L (offerMessage L (utf8 text))).toOption = none := by
  rw [Ice.fromJsonString_other (stringToJson_offerMessage text) rfl (by decide)]
  rfl

theorem answerMessage_not_ice (L : JsonLibs) (text : String) :
    (Ice.fromJsonString L (answerMessage L (utf8 text))).toOption = none := by
  rw [Ice.fromJsonString_other (stringToJson_answerMessage text) rfl (by decide)]
  rfl

/-- **Candidates arrive once, in order.** In every run of a session whose
reported candidates are well formed: while the connection is open, what a side
has pushed and what is in flight towards it is the other side's list; and in
every state reached, what it has pushed is a prefix of that list. -/
theorem candidates_in_order (L : JsonLibs) (Wc Ws : WebRtc) (es : List Action) (s : Session)
    (run : (Session.machine L Wc Ws).run es = some s) (reported : ReportsWellFormed es) :
    (s.isOpen →
      pushedIces s.server ++ icesOf L s.toServer.inFlight = s.client.state.iceList ∧
      pushedIces s.client ++ icesOf L s.toClient.inFlight = s.server.state.iceList) ∧
    pushedIces s.server <+: s.client.state.iceList ∧
    pushedIces s.client <+: s.server.state.iceList := by
  have inv := Session.inv_of_reachable ⟨es, run⟩
  have all := Session.allComplete_of_run run reported
  refine ⟨?_, ?_, ?_⟩
  · rintro ⟨clientOpen, serverOpen⟩
    constructor
    · exact pushed_append_inFlight inv.client inv.toServer (offerMessage_not_ice L) all.1 clientOpen
        (inv.serverLink (by simp [serverOpen]))
    · exact pushed_append_inFlight inv.server inv.toClient (answerMessage_not_ice L) all.2
        serverOpen (inv.clientLink (by simp [clientOpen]))
  · exact inv.toServer.pushedIces.1.trans (List.take_prefix _ _)
  · exact inv.toClient.pushedIces.1.trans (List.take_prefix _ _)

theorem candidates_in_order_exchange :
    ∃ s, (Session.machine .reference .reference .reference).run Session.exchange = some s ∧
      ReportsWellFormed Session.exchange ∧ s.isOpen ∧ (pushedIces s.server).length = 1 ∧
      pushedIces s.server ++ icesOf .reference s.toServer.inFlight = s.client.state.iceList ∧
      pushedIces s.client ++ icesOf .reference s.toClient.inFlight = s.server.state.iceList := by
  have good : ReportsWellFormed Session.exchange := by
    intro side pc candidate member
    simp only [Session.exchange, List.mem_cons, List.not_mem_nil, or_false, Action.act.injEq,
      Event.callback.injEq, Callback.iceCandidate.injEq, reduceCtorEq, and_false,
      false_or] at member
    rcases member with ⟨-, -, rfl⟩ | ⟨-, -, rfl⟩ <;> exact ⟨by decide, by decide, by decide⟩
  have checked : ((Session.machine .reference .reference .reference).run
      Session.exchange).any (fun s => decide (s.client.conn = .open) &&
        decide (s.server.conn = .open) && (pushedIces s.server).length == 1) = true := by
    decide +kernel
  obtain ⟨s, run, facts⟩ := (Option.any_eq_true _ _).mp checked
  simp only [Bool.and_eq_true, decide_eq_true_eq, beq_iff_eq] at facts
  have isOpen : s.isOpen := facts.1
  have equations := (candidates_in_order _ _ _ _ s run good).1 isOpen
  exact ⟨s, run, good, isOpen, facts.2, equations⟩

end WebrtcSample
