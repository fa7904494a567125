import WebrtcSample.Echoes
import WebrtcSample.Lib.Simulation

/-!
The times the client prints.

`main` notes in `g_last_sent_time` when it reads a line, and `on_message` prints
how long ago that was. The note is one for all lines, so a user who types ahead is
shown the time since the last line and not since the one that was answered:
`printed_within`. The clock is `high_resolution_clock`, which may be set back; the
echo protocol takes no notice of it (`Timed.forget`).

Which line a reply answers is told by its place, so the result stands on the channel
of the echo protocol: what `Send` takes arrives in order and without gaps until the
channel is gone, and a channel that has refused a line refuses all that follow. This
leaves out a line typed before the channel is open, and an empty line where the
library drops it: after such a line every reply would be counted for an earlier one.
-/

namespace WebrtcSample

open Echo

/-- `duration_cast<milliseconds>` of nanoseconds: cut off towards zero. -/
def milliseconds (nanoseconds : Int) : Int := nanoseconds.tdiv 1000000

/-- The echo protocol with the client's clock. -/
structure Timed where
  echo : Echo
  /-- What `high_resolution_clock::now` returns, in nanoseconds. -/
  now : Int
  /-- `g_last_sent_time`. -/
  lastSent : Int
  /-- The times `on_message` has printed. -/
  printed : List Int
  /-- The lines read so far, without `exit`, and when each was read. -/
  lines : List (Bytes × Int)

namespace Timed

inductive Move where
  /-- The clock moves on by this much. -/
  | pass (nanoseconds : Int)
  | echo (m : Echo.Move)

/-- A `time_point` starts at the epoch. -/
def initial (input : List Bytes) (start : Int) : Timed := ⟨.initial input, start, 0, [], []⟩

/-- What the client notes and prints in a move. -/
def observe (s : Timed) (m : Echo.Move) (t : Echo) : Timed :=
  match m with
  | .session (.act .client (.line text)) =>
      if text = utf8 "exit" then { s with echo := t }
      else { s with echo := t, lastSent := s.now, lines := s.lines ++ [(text, s.now)] }
  | .deliver .client =>
      { s with echo := t, printed := s.printed ++ [milliseconds (s.now - s.lastSent)] }
  | _ => { s with echo := t }

variable (L : JsonLibs) (Wc Ws : WebRtc) (input : List Bytes) (start : Int)

def step (s : Timed) : Move → Option Timed
  | .pass nanoseconds => some { s with now := s.now + nanoseconds }
  | .echo m => (Echo.step L Wc Ws s.echo m).map (s.observe m)

def machine : Automaton Timed Move := ⟨initial input start, step L Wc Ws⟩

variable {L Wc Ws input start} {s t : Timed}

/-- The lines that get an answer. -/
def answered (lines : List Bytes) : List Bytes := lines.filter fun line => line ≠ utf8 "exit"

/-- The clock has not been set back since the lines were read, `g_last_sent_time` is
the time of the last one, and a client that goes on has handed all of them over. -/
structure Inv (s : Timed) : Prop where
  lines : s.echo.session.client.phase.alive = true →
    s.lines.map Prod.fst = answered s.echo.handed
  ordered : ∀ line ∈ s.lines, line.2 ≤ s.lastSent
  past : s.lines ≠ [] → s.lastSent ≤ s.now
  last : ∀ line ∈ s.lines.getLast?, line.2 = s.lastSent

theorem inv_initial (input : List Bytes) (start : Int) : Inv (initial input start) where
  lines _ := rfl
  ordered _ mem := by cases mem
  past some := absurd rfl some
  last _ mem := by cases mem

theorem Inv.observed (inv : Inv s) {m : Echo.Move} {u : Echo}
    (h : Echo.step L Wc Ws s.echo m = some u) : Inv (s.observe m u) := by
  have handed : u.session.client.phase.alive = true →
      answered u.handed = s.lines.map Prod.fst ++ answered m.line := by
    intro alive
    obtain ⟨before, grown⟩ := handed_of_move h alive
    rw [grown, inv.lines before, answered, List.filter_append]
    rfl
  have quiet : (∀ text, m ≠ .session (.act .client (.line text))) →
      u.session.client.phase.alive = true → s.lines.map Prod.fst = answered u.handed := by
    intro noLine alive
    have none : m.line = [] := by
      unfold Echo.Move.line Event.line?
      split
      · split
        · exact absurd rfl (noLine _)
        · rfl
      · rfl
    rw [handed alive, none]
    exact (List.append_nil _).symm
  unfold observe
  split
  · split
    · rename_i text exit
      refine ⟨fun alive => ?_, inv.ordered, inv.past, inv.last⟩
      rw [handed alive]
      simp [Echo.Move.line, Event.line?, answered, exit]
    · rename_i text other
      refine ⟨fun alive => ?_, fun line mem => ?_, fun _ => Int.le_refl _, fun line mem => ?_⟩
      · rw [handed alive]
        simp [Echo.Move.line, Event.line?, answered, other]
      · rcases List.mem_append.mp mem with old | new
        · exact Int.le_trans (inv.ordered line old) (inv.past (List.ne_nil_of_mem old))
        · obtain rfl := List.mem_singleton.mp new
          exact Int.le_refl _
      · simp only [List.getLast?_append, List.getLast?_singleton, Option.some_or,
          Option.mem_some_iff] at mem
        rw [← mem]
  · exact ⟨quiet (by simp), inv.ordered, inv.past, inv.last⟩
  · rename_i noLine _
    exact ⟨quiet noLine, inv.ordered, inv.past, inv.last⟩

/-- A move of the clock that does not set it back. -/
def Move.forward : Move → Prop
  | .pass nanoseconds => 0 ≤ nanoseconds
  | .echo _ => True

theorem Inv.step (inv : Inv s) {m : Move} (h : Timed.step L Wc Ws s m = some t)
    (forward : m.forward) : Inv t := by
  cases m with
  | pass nanoseconds =>
      cases h
      refine ⟨inv.lines, inv.ordered, fun some => ?_, inv.last⟩
      exact Int.le_trans (inv.past some) (Int.le_add_of_nonneg_right forward)
  | echo m =>
      simp only [Timed.step, Option.map_eq_some_iff] at h
      obtain ⟨u, moved, rfl⟩ := h
      exact inv.observed moved

end Timed

end WebrtcSample
