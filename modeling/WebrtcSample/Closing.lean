import WebrtcSample.Dialogue

/-!
Sending and closing.

The server closes the WebSocket as soon as its data channel is open, while both
sides go on gathering candidates and send each one when it is reported. Nothing
ties the two together: a report that comes after the closing has begun is sent
on a connection that no longer accepts it, `send` throws on the signaling
thread, and the process ends. `no_late_send_iff` says that this is the only way:
along every run of a session no program sends on a connection that is closing
exactly if none is told of a description or a candidate then.
-/

namespace WebrtcSample

/-- The server has called `close` on the connection, or a side has seen it
closed. -/
def Session.closeBegun (s : Session) : Bool :=
  Call.wsClose (some 0) ∈ s.server.state.calls || s.server.conn = .closed ||
    s.client.conn = .closed

def Call.isWsSend : Call → Bool
  | .wsSend _ _ => true
  | _ => false

/-- The calls of `send` on a WebSocket handle. -/
def wsSends (p : Process) : List Call := p.state.calls.filter Call.isWsSend

/-- Neither program calls `send` once the closing has begun. -/
def NoLateSend (s : Session) (_ : Action) (t : Session) : Prop :=
  s.closeBegun = true → wsSends t.client = wsSends s.client ∧ wsSends t.server = wsSends s.server

/-- libwebrtc reports a description or a candidate. -/
def Event.reports : Event → Bool
  | .callback (.sdpCreated _ _) => true
  | .callback (.iceCandidate _ _) => true
  | _ => false

def Action.reports : Action → Bool
  | .act _ ev => ev.reports
  | .deliver _ => false

/-- No description and no candidate is reported once the closing has begun. -/
def NoLateReport (s : Session) (a : Action) (_ : Session) : Prop :=
  s.closeBegun = true → a.reports = false

section Sends

variable {L : JsonLibs} {message : Bytes → Bytes} {p q : Process} {ev : Event} {sent : List Bytes}

theorem wsSends_eq (p : Process) : wsSends p = p.signaling.said.filter Call.isWsSend := by
  show _ = (p.state.calls.filter Call.isSaid).filter Call.isWsSend
  rw [List.filter_filter]
  refine List.filter_congr fun c _ => ?_
  cases c <;> rfl

theorem wsSends_of_said (said : q.signaling.said = p.signaling.said) : wsSends q = wsSends p := by
  rw [wsSends_eq, wsSends_eq, said]

@[simp] theorem wsSends_flushed (p : Process) : wsSends p.flushed = wsSends p := rfl

/-- A local step sends exactly when libwebrtc reports something. -/
theorem Speaker.sends_iff (inv : Speaker L message p sent) (alive : p.phase.alive = true)
    (h : Local L message p ev q) : wsSends q = wsSends p ↔ ev.reports = false := by
  have grows : ∀ more, q.signaling.said = p.signaling.said ++ more →
      more.filter Call.isWsSend ≠ [] → wsSends q ≠ wsSends p := by
    intro more said some same
    rw [wsSends_eq, wsSends_eq, said, List.filter_append] at same
    exact some (List.append_right_eq_self.mp same)
  cases h with
  | quiet same _ isQuiet =>
      constructor
      · intro _
        cases ev with
        | callback c => cases c <;> first | rfl | cases isQuiet
        | _ => rfl
      · intro _
        exact wsSends_of_said (by rw [same])
  | failed same | closed same | withdrawn _ same | quit same =>
      exact iff_of_true (wsSends_of_said (by rw [same])) rfl
  | undescribed pending null =>
      obtain ⟨-, -, peer, -⟩ := inv.told_of_pending pending
      rw [inv.current alive peer] at null
      cases null
  | described _ _ same =>
      refine iff_of_false (grows _ (by rw [same]) ?_) (by simp [Event.reports])
      simp [List.filter_cons, Call.isWsSend]
  | candidate _ same =>
      refine iff_of_false (grows _ (by rw [same]) ?_) (by simp [Event.reports])
      simp [List.filter_cons, Call.isWsSend]

end Sends

namespace Session

variable {L : JsonLibs} {Wc Ws : WebRtc} {s t : Session}

/-- An action sends exactly when it reports. -/
theorem Inv.sends_iff (inv : Inv L Wc Ws s) {a : Action}
    (h : Session.step L Wc Ws s a = some t) :
    (wsSends t.client = wsSends s.client ∧ wsSends t.server = wsSends s.server) ↔
      a.reports = false := by
  rcases step_cases h with ⟨ev, p, rfl, solo, moved, rfl⟩ | ⟨ev, p, rfl, solo, moved, rfl⟩ |
    ⟨payload, rest, p, rfl, popped, moved, rfl⟩ | ⟨payload, rest, p, rfl, popped, moved, rfl⟩
  · rcases isLocal_of_isSolo solo with rfl | isLocal
    · obtain ⟨-, -, same | ⟨-, pc, peers, -, same⟩⟩ := Client.signaling_open moved <;>
        exact iff_of_true ⟨wsSends_of_said (by simp [same]), rfl⟩ rfl
    · have iff := inv.client.sends_iff (Process.alive_of_step moved)
        (local_of_step (Client.speaks L Wc) isLocal moved)
      simpa [Action.reports] using iff
  · rcases isLocal_of_isSolo solo with rfl | isLocal
    · obtain ⟨-, -, same⟩ := Server.signaling_open moved
      exact iff_of_true ⟨rfl, wsSends_of_said (by simp [same])⟩ rfl
    · have iff := inv.server.sends_iff (Process.alive_of_step moved)
        (local_of_step (Server.speaks L Ws) isLocal moved)
      simpa [Action.reports] using iff
  · have alive := Process.alive_of_step moved
    have current := inv.client.current alive (inv.clientPeer alive (present_of_message moved))
    obtain ⟨heard, same⟩ := Client.signaling_message current moved
    exact iff_of_true ⟨wsSends_of_said (by simp [same]), rfl⟩ rfl
  · have said := (Server.signaling_message moved).1
    exact iff_of_true ⟨rfl, wsSends_of_said (by simpa using said)⟩ rfl

end Session

/-- **When no program sends too late.** Along every run of a session, no program
calls `send` after the closing of the connection has begun exactly if libwebrtc
reports no description and no candidate then. -/
theorem no_late_send_iff (L : JsonLibs) (Wc Ws : WebRtc) (es : List Action) :
    (Session.machine L Wc Ws).EachStep NoLateSend Session.initial es ↔
      (Session.machine L Wc Ws).EachStep NoLateReport Session.initial es := by
  refine Automaton.EachStep.congr (I := Session.Inv L Wc Ws) (fun _ _ _ inv h => inv.step h) ?_
    Session.inv_initial
  intro s a t inv h
  exact imp_congr_right fun _ => inv.sends_iff h

/-- Both sides are described, the data channel opens and the server closes the
connection. -/
def Session.established : List Action :=
  Session.exchange ++
    [.act .server (.callback (.dataChannel 0)), .act .server (.callback (.stateChange 0 .open))]

/-- A candidate reported after that is sent on the closing connection, and the
server ends on the exception. -/
theorem late_candidate :
    ¬ (Session.machine .reference .reference .reference).EachStep NoLateSend Session.initial
        (Session.established ++
          [.act .server (.callback (.iceCandidate 0 ⟨"candidate:1", "0", 0⟩))]) ∧
      ∃ t, (Session.machine .reference .reference .reference).run
          (Session.established ++
            [.act .server (.callback (.iceCandidate 0 ⟨"candidate:1", "0", 0⟩))]) = some t ∧
        t.server.phase = .aborted (.exception (utf8 "invalid state")) := by
  have checked : ((Session.machine .reference .reference .reference).run
      Session.established).any (fun s =>
        ((Session.machine .reference .reference .reference).step s
          (.act .server (.callback (.iceCandidate 0 ⟨"candidate:1", "0", 0⟩)))).any fun t =>
            s.closeBegun = true ∧ (wsSends t.server).length ≠ (wsSends s.server).length ∧
              t.server.phase = .aborted (.exception (utf8 "invalid state"))) = true := by
    decide +kernel
  obtain ⟨s, t, run, step, facts⟩ := Automaton.exists_of_lastStep checked
  obtain ⟨begun, sends, phase⟩ := of_decide_eq_true facts
  constructor
  · intro each
    have same := (each.last run step begun).2
    exact sends (by rw [same])
  · exact ⟨t, Automaton.run_concat run step, phase⟩

end WebrtcSample
