import WebrtcSample.JsClient
import WebrtcSample.Channels
import WebrtcSample.Lifetime

/-!
A text on its way from the browser to the server and back.

The script's strings are UTF-16, the browser sends them as UTF-8, the server
prepends to the bytes and sends them back as binary, and `onmessage` builds a
string from them with `String.fromCharCode`, one character a byte. That is the
text which was sent as long as every character is ASCII; any other character
comes back as two to four characters (`shows_echo_iff`).
-/

namespace WebrtcSample

open Prog Effect

/-! ### The script -/

namespace Browser

variable {tab tab' : Tab}

theorem keeps_channelSends_quit : Keeps Tab.channelSends quit := by
  intro tab
  cases channel : tab.dataChannel with
  | none => simp [quit, channel]
  | some dc =>
      cases peer : tab.peerConnection with
      | none => simp [run_quit_null channel peer, Tab.channelSends, Act.sent?]
      | some pc =>
          simp [run_quit channel peer, Tab.left, Tab.channelSends, Act.sent?, List.filterMap_cons]

/-- `send` returns only when the channel took the text. -/
theorem newSends_of_send {answer : SendAnswer} (sends : (send answer).run tab = .ok () tab') :
    ∃ cur, tab.newSends tab' = [(cur, tab.typed)] := by
  cases channel : tab.dataChannel with
  | none => simp [send, input, channel] at sends
  | some cur =>
      by_cases isOpen : tab.channelState cur = .open
      · cases declined : answer.fault with
        | some err =>
            rw [run_send_declined channel isOpen declined] at sends
            cases sends
        | none =>
            obtain rfl := Browser.SendAnswer.eq_taken declined
            rw [run_send_taken channel isOpen] at sends
            have kept : Keeps Tab.channelSends
                (if tab.stdin = utf16 "exit" then quit else pure ()) :=
              Keeps.ite keeps_channelSends_quit (keeps_pure ())
            have same := kept (tab.sent cur)
            rw [sends, final_ok] at same
            refine ⟨cur, ?_⟩
            rw [Tab.newSends, same]
            simp [Tab.sent, Tab.channelSends, Act.sent?]
      · simp [send, input, channelSend, channel, isOpen] at sends

end Browser

namespace JsClient

/-- The script shows a reply as this text. -/
def Shows (reply : Bytes) (text : String) : Prop :=
  ∀ tab : Browser.Tab, ∃ tab', (Browser.onmessage reply).run tab = .ok () tab' ∧
    tab'.stdout = tab.stdout ++
      (utf16 "Data Channel onmessage:" ++ utf16 "[object ArrayBuffer]" ++ utf16 "\n") ++
      (utf16 text ++ utf16 "\n")

theorem shows_iff (reply : Bytes) (text : String) :
    Shows reply text ↔ fromCharCode reply = utf16 text := by
  constructor
  · intro shows
    obtain ⟨tab', run, stdout⟩ := shows .initial
    rw [Browser.run_onmessage] at run
    cases run
    exact List.append_cancel_right (List.append_cancel_left stdout)
  · intro same tab
    exact ⟨_, Browser.run_onmessage reply, by rw [same]⟩

/-- Evaluation can settle whether a text is ASCII. -/
theorem ascii_of_all {text : String} (all : (text.toList.all fun c => c.toNat < 128) = true) :
    ∀ c ∈ text.toList, c.toNat < 128 := by
  simpa using all

/-- A text in UTF-8 is shown as it is exactly if it is ASCII. -/
theorem shows_utf8 (text : String) : Shows (utf8 text) text ↔ ∀ c ∈ text.toList, c.toNat < 128 := by
  rw [shows_iff, fromCharCode, Utf16.widen_utf8]

end JsClient

/-! ### The echo -/

/-- In a run, a message other than `exit` is answered with its echo on the
current channel. -/
theorem Server.newSends_message {L : JsonLibs} {W : WebRtc} {es : List Event} {p q : Process}
    {dc : DcId} {data : Bytes} (run : (Process.machine (manager L W)).run es = some p)
    (step : (Process.machine (manager L W)).step p (.callback (.message dc data)) = some q)
    (other : data ≠ utf8 "exit") :
    ∃ cur, newSends p q = [(cur, utf8 "Echo of: " ++ data)] := by
  have enabled := Process.callback_enabled step
  simp only [Callback.enabled, decide_eq_true_eq] at enabled
  have set := (serving_of_run run).observed (Process.alive_of_step step)
    (List.ne_nil_of_mem enabled)
  obtain ⟨cur, current⟩ := Option.isSome_iff_exists.mp set
  have calls := channelCalls_message step
  rw [if_neg other, current] at calls
  exact ⟨cur, newSends_eq (counts_of_append calls).2.2⟩

/-- Whatever the server sends in the step, the script shows as the echo of the
text. -/
def ShowsEcho (p q : Process) (s : String) : Prop :=
  ∀ sent ∈ newSends p q, JsClient.Shows sent.2 ("Echo of: " ++ s)

/-- A reply to a text is shown as its echo exactly if the text is ASCII. -/
theorem showsEcho_of_newSends {p q : Process} {s : String} {cur : DcId}
    (sends : newSends p q = [(cur, utf8 "Echo of: " ++ utf8 s)]) :
    ShowsEcho p q s ↔ ∀ c ∈ s.toList, c.toNat < 128 := by
  have greeting : ∀ c ∈ "Echo of: ".toList, c.toNat < 128 := JsClient.ascii_of_all (by decide)
  rw [ShowsEcho, sends, List.forall_mem_singleton, ← utf8_append, JsClient.shows_utf8,
    String.toList_append, List.forall_mem_append]
  exact ⟨fun ascii => ascii.2, fun ascii => ⟨greeting, ascii⟩⟩

/-- **Text round trip of the script.** When the user sends a text other than
`exit` and the server gets its bytes, the script shows the server's reply as the
echo of the text exactly if the text is ASCII. -/
theorem shows_echo_iff {L : JsonLibs} {W : WebRtc} {es : List Event} {p q : Process}
    {tab tab' : Browser.Tab} {answer : Browser.SendAnswer} {s : String} {data : Bytes}
    {cur dc : DcId} (other : s ≠ "exit") (typed : tab.stdin = utf16 s)
    (sends : (Browser.send answer).run tab = .ok () tab')
    (carried : tab.newSends tab' = [(cur, data)])
    (run : (Process.machine (Server.manager L W)).run es = some p)
    (step : (Process.machine (Server.manager L W)).step p (.callback (.message dc data)) = some q) :
    ShowsEcho p q s ↔ ∀ c ∈ s.toList, c.toNat < 128 := by
  have text : data = utf8 s := by
    obtain ⟨cur', given⟩ := Browser.newSends_of_send sends
    rw [carried, Browser.typed_of_text typed] at given
    exact (Prod.mk.inj (List.singleton_inj.mp given)).2
  rw [text] at step
  obtain ⟨cur, sends⟩ := Server.newSends_message run step (utf8_inj.not.mpr other)
  exact showsEcho_of_newSends sends

/-- The script has a channel and the user has typed a text. -/
def Browser.typing (s : String) : Tab :=
  { Tab.initial with
    stdin := utf16 s
    peerConnection := some 0
    dataChannel := some 0
    peers := 1
    channels := 1
    channelState := fun _ => .open }

theorem Browser.run_send_typing {s : String} (other : utf16 s ≠ utf16 "exit") :
    (send .taken).run (typing s) = .ok () ((typing s).sent 0) := by
  have goesOn : (typing s).stdin ≠ utf16 "exit" := other
  rw [run_send_taken rfl rfl, if_neg goesOn]
  rfl

theorem Browser.newSends_typing (s : String) :
    (typing s).newSends ((typing s).sent 0) = [(0, utf8 s)] := by
  have text : (typing s).typed = utf8 s := typed_of_text rfl
  show [(0, (typing s).typed)] = _
  rw [text]

/-- An ASCII text is shown. -/
theorem shows_echo_ascii :
    ∃ tab' p q, (Browser.send .taken).run (Browser.typing "hi") = .ok () tab' ∧
      (Browser.typing "hi").newSends tab' = [(0, utf8 "hi")] ∧
      (Process.machine (Server.manager .reference .reference)).run Server.oneChannel = some p ∧
      (Process.machine (Server.manager .reference .reference)).step p
        (.callback (.message 0 (utf8 "hi"))) = some q ∧
      ShowsEcho p q "hi" := by
  have checked : ((Process.machine (Server.manager .reference .reference)).run
      Server.oneChannel).any (fun p =>
        ((Process.machine (Server.manager .reference .reference)).step p
          (.callback (.message 0 (utf8 "hi")))).any fun q => newSends p q ≠ []) = true := by
    decide +kernel
  obtain ⟨p, q, run, step, -⟩ := Automaton.exists_of_lastStep checked
  have sends := Browser.run_send_typing (s := "hi") (by decide)
  have given := Browser.newSends_typing "hi"
  exact ⟨_, p, q, sends, given, run, step,
    (shows_echo_iff (by decide) rfl sends given run step).mpr (JsClient.ascii_of_all (by decide))⟩

/-- A letter with an accent is not: its two bytes are shown as two characters. -/
theorem accent_not_shown :
    ∃ tab' p q, (Browser.send .taken).run (Browser.typing "é") = .ok () tab' ∧
      (Browser.typing "é").newSends tab' = [(0, utf8 "é")] ∧
      (Process.machine (Server.manager .reference .reference)).run Server.oneChannel = some p ∧
      (Process.machine (Server.manager .reference .reference)).step p
        (.callback (.message 0 (utf8 "é"))) = some q ∧
      newSends p q = [(0, utf8 "Echo of: " ++ utf8 "é")] ∧ ¬ ShowsEcho p q "é" := by
  have checked : ((Process.machine (Server.manager .reference .reference)).run
      Server.oneChannel).any (fun p =>
        ((Process.machine (Server.manager .reference .reference)).step p
          (.callback (.message 0 (utf8 "é")))).any fun q =>
            newSends p q = [(0, utf8 "Echo of: " ++ utf8 "é")]) = true := by
    decide +kernel
  obtain ⟨p, q, run, step, sends⟩ := Automaton.exists_of_lastStep checked
  refine ⟨_, p, q, Browser.run_send_typing (by decide), Browser.newSends_typing "é", run, step,
    of_decide_eq_true sends, ?_⟩
  rw [showsEcho_of_newSends (of_decide_eq_true sends)]
  intro ascii
  exact absurd (ascii 'é' (by simp)) (by decide)

end WebrtcSample
