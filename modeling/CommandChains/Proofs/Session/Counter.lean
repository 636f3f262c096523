import Mathlib
import CommandChains.Facility.Scripted
import CommandChains.Proofs.Session.Execute

/-!
# The counter and the end of a session

Between two lines a session knows two things: the number in its next prompt, and whether
it is over. Both are settled by what has come of the lines so far. The counter is one more
than the number of lines that count, which are those that are not empty and were completed;
and the session is over if some line was completed by `exit`.

A turn is a line together with what has come of it. `Tally` says how turns take a session
from one state to another. It holds for one line, and so for a source of lines, whatever it
shares with the facility, and for any sequence of lines and sources.
-/

namespace CommandChains.Session

variable {σ τ : Type}

/-- A line that was run, and what has come of it. -/
structure Turn where
  line : String
  result : Except SessionError Ending

/-- Whether a result is the end of a session. -/
def exits : Except SessionError Ending → Bool
  | .ok .exit => true
  | _ => false

namespace Turn

/-- Whether a turn is the end of its session. -/
def exits (turn : Turn) : Bool := Session.exits turn.result

def counts (turn : Turn) : Bool :=
  match turn.result with
  | .ok .completed => decide (turn.line ≠ "")
  | _ => false

theorem exits_eq_true_iff {turn : Turn} :
    turn.exits = true ↔ turn.result = .ok .exit := by
  obtain ⟨line, _ | _ | _⟩ := turn <;> simp [exits, Session.exits]

end Turn

/-- The lines that are run while a source is read, with what has come of them. -/
def turns (F : Facility σ) (L : LineSource σ τ) : Session σ × τ → List Turn := fun (s, input) =>
  if s.terminated then []
  else
    match read : L.next s.prompt (s.toWorld, input) with
    | ⟨.error _, _, _⟩ => []
    | ⟨.ok none, _, _⟩ => []
    | ⟨.ok (some line), (w, rest), _⟩ =>
      have : L.remaining rest < L.remaining input := L.remaining_lt read
      match execute F line { s with toWorld := w } with
      | ⟨.error e, _, _⟩ => [⟨line, .error e⟩]
      | ⟨.ok how, s', _⟩ => ⟨line, .ok how⟩ :: turns F L (s', rest)
termination_by s => L.remaining s.2

section

variable {F : Facility σ} {L : LineSource σ τ} {s s' : Session σ} {w : World σ}
variable {input rest : τ} {j k : Journal}

theorem turns_of_terminated (ended : s.terminated = true) : turns F L (s, input) = [] := by
  rw [turns, if_pos ended]

theorem turns_of_no_line {result : Except SessionError (Option String)}
    (read : L.next s.prompt (s.toWorld, input) = ⟨result, (w, rest), j⟩)
    (none_ : ∀ line, result ≠ .ok (some line)) : turns F L (s, input) = [] := by
  rw [turns]
  split
  · rfl
  split
  · rfl
  · rfl
  · next found =>
    rw [read] at found
    cases found
    exact absurd rfl (none_ _)

theorem turns_of_line {line : String} {how : Ending} (going : s.terminated = false)
    (read : L.next s.prompt (s.toWorld, input) = ⟨.ok (some line), (w, rest), j⟩)
    (ran : execute F line { s with toWorld := w } = ⟨.ok how, s', k⟩) :
    turns F L (s, input) = ⟨line, .ok how⟩ :: turns F L (s', rest) := by
  conv => lhs; rw [turns]
  simp only [going, Bool.false_eq_true, if_false]
  split
  · simp_all
  · simp_all
  · next found =>
    rw [read] at found
    cases found
    simp only [going] at ran
    simp [ran]

end

/-- The turns make one state of a session out of another: each one that counts adds to the
counter, and the session is over if it was before or one of them ended it. -/
structure Tally (s : Session σ) (turns : List Turn) (t : Session σ) : Prop where
  counter : t.counter = s.counter + turns.countP Turn.counts
  ended : t.terminated.toNat = s.terminated.toNat + turns.countP Turn.exits

namespace Tally

variable {s t u : Session σ} {a b : List Turn}

theorem nil (counter : t.counter = s.counter) (terminated : t.terminated = s.terminated) :
    Tally s [] t :=
  ⟨counter, congrArg Bool.toNat terminated⟩

theorem append (first : Tally s a t) (second : Tally t b u) : Tally s (a ++ b) u := by
  refine ⟨?_, ?_⟩
  · rw [second.counter, first.counter, List.countP_append, Nat.add_assoc]
  · rw [second.ended, first.ended, List.countP_append, Nat.add_assoc]

theorem of_turn {turn : Turn} (counter : t.counter = s.counter + turn.counts.toNat)
    (ended : t.terminated.toNat = s.terminated.toNat + turn.exits.toNat) : Tally s [turn] t := by
  refine ⟨?_, ?_⟩
  · cases counts : turn.counts <;> simp [counter, counts]
  · cases exits : turn.exits <;> simp [ended, exits]

/-- What is written and read before the turns makes no difference. -/
theorem of_world {w : World σ} (h : Tally { s with toWorld := w } a t) : Tally s a t :=
  ⟨h.counter, h.ended⟩

end Tally

/-! ## One line -/

theorem runLine_keeps (F : Facility σ) (line : String) (s : Session σ) :
    (runLine F line s).state.counter = s.counter ∧
      (runLine F line s).state.terminated = s.terminated := by
  unfold runLine
  split <;> exact ⟨rfl, rfl⟩

/-- One line is counted for what has come of it. -/
theorem tally_execute (F : Facility σ) (line : String) (s : Session σ) :
    Tally s [⟨line, (execute F line s).result⟩] (execute F line s).state := by
  rw [execute_run]
  by_cases closed : s.terminated
  · rw [if_pos closed]
    exact .of_turn rfl rfl
  rw [if_neg closed]
  obtain ⟨counter, terminated⟩ := runLine_keeps F line s
  rcases ran : runLine F line s with ⟨result, t, j⟩
  rw [ran] at counter terminated
  dsimp only at counter terminated
  cases result with
  | error e =>
    rw [proceed_of_error ran]
    exact .of_turn counter (congrArg Bool.toNat terminated)
  | ok how =>
    rw [proceed_of_ok ran]
    cases how with
    | exit => exact .of_turn counter (by simp [settled, closed, Turn.exits, exits])
    | completed =>
      by_cases empty : line = "" <;>
        exact .of_turn (by simp [settled, empty, counter, Turn.counts])
          (by simp [settled, empty, terminated, Turn.exits, exits])

/-- A line ends the session just if its result says so. -/
theorem terminated_of_execute (F : Facility σ) (line : String) {s : Session σ}
    (going : s.terminated = false) :
    (execute F line s).state.terminated = exits (execute F line s).result := by
  have ended := (tally_execute F line s).ended
  rw [going] at ended
  cases closed : (execute F line s).state.terminated <;>
    cases said : exits (execute F line s).result <;> simp [closed, said, Turn.exits] at ended ⊢

/-! ## Reading lines -/

/-- The lines that are run while a source is read are counted one after the other. -/
theorem tally_converse (F : Facility σ) (L : LineSource σ τ) (start : Session σ × τ) :
    Tally start.1 (turns F L start) (converse F L start).state.1 := by
  fun_induction turns F L start with
  | case1 s input closed =>
    rw [converse_of_terminated closed]
    exact .nil rfl rfl
  | case2 s input going e after j read =>
    rw [converse_of_error (Bool.eq_false_iff.2 going) read]
    exact .nil rfl rfl
  | case3 s input going after j read =>
    rw [converse_of_end (Bool.eq_false_iff.2 going) read]
    exact .nil rfl rfl
  | case4 s input going line w rest j read fewer e s' k ran =>
    rw [converse_of_line_error (Bool.eq_false_iff.2 going) read ran]
    have one := tally_execute F line { s with toWorld := w }
    rw [ran] at one
    exact one.of_world
  | case5 s input going line w rest j read fewer how s' k ran ih =>
    rw [converse_of_line (Bool.eq_false_iff.2 going) read ran]
    have one := tally_execute F line { s with toWorld := w }
    rw [ran] at one
    exact one.of_world.append ih

/-! ## Lines and sources, one after the other -/

/-- What can be done with a session: a line can be run, or a source of lines be read. -/
inductive Move (σ : Type) : Type 1 where
  | line (text : String)
  | talk {τ : Type} (L : LineSource σ τ) (input : τ)

namespace Move

def after (F : Facility σ) : Move σ → Session σ → Session σ
  | line text, s => (execute F text s).state
  | talk L input, s => (converse F L (s, input)).state.1

/-- The lines that are run in a move. -/
def turns (F : Facility σ) : Move σ → Session σ → List Turn
  | line text, s => [⟨text, (execute F text s).result⟩]
  | talk L input, s => Session.turns F L (s, input)

theorem tally (F : Facility σ) (move : Move σ) (s : Session σ) :
    Tally s (move.turns F s) (move.after F s) := by
  cases move with
  | line text => exact tally_execute F text s
  | talk L input => exact tally_converse F L (s, input)

end Move

def afterMoves (F : Facility σ) : List (Move σ) → Session σ → Session σ
  | [], s => s
  | move :: rest, s => afterMoves F rest (move.after F s)

/-- The lines that are run in some moves. -/
def turnsOfMoves (F : Facility σ) : List (Move σ) → Session σ → List Turn
  | [], _ => []
  | move :: rest, s => move.turns F s ++ turnsOfMoves F rest (move.after F s)

theorem tally_moves (F : Facility σ) (moves : List (Move σ)) (s : Session σ) :
    Tally s (turnsOfMoves F moves s) (afterMoves F moves s) := by
  induction moves generalizing s with
  | nil => exact .nil rfl rfl
  | cons move rest ih => exact (move.tally F s).append (ih _)

/-! ## After the end -/

section

variable {s : Session σ} (closed : s.terminated = true)

include closed

theorem execute_of_terminated (F : Facility σ) (line : String) :
    execute F line s = ⟨.error .terminated, s, []⟩ := by
  rw [execute_run, if_pos closed]

/-- No move does anything to a session that is over. -/
theorem after_of_terminated (F : Facility σ) (move : Move σ) : move.after F s = s := by
  cases move with
  | line text => rw [Move.after, execute_of_terminated closed]
  | talk L input => rw [Move.after, converse_of_terminated closed]

theorem afterMoves_of_terminated (F : Facility σ) (moves : List (Move σ)) :
    afterMoves F moves s = s := by
  induction moves with
  | nil => rfl
  | cons move rest ih => rw [afterMoves, after_of_terminated closed, ih]

end

/-- How a session goes. Whatever lines are run and whatever sources are read, on any
facility and any sink: the counter is one more than the number of lines so far that are not
empty and were completed, also if they had nothing to run, but not those that failed, were
refused, or said `exit`. The session is over just if some line has said `exit`, and at most
one line does. Once it is over, every line is refused and every source is left at once,
unread, without a prompt, and nothing is written, asked for or changed any more. -/
theorem counter_and_end (F : Facility σ) (facility : σ) (sink : Sink) (moves : List (Move σ)) :
    let fresh : Session σ := { facility, sink }
    let s := afterMoves F moves fresh
    let turns := turnsOfMoves F moves fresh
    s.counter = 1 + turns.countP Turn.counts ∧
    (s.terminated = true ↔ ∃ turn ∈ turns, turn.result = .ok .exit) ∧
    turns.countP Turn.exits ≤ 1 ∧
    (s.terminated = true →
      (∀ line, execute F line s = ⟨.error .terminated, s, []⟩) ∧
      (∀ (τ : Type) (L : LineSource σ τ) (input : τ),
        converse F L (s, input) = ⟨.ok .exit, (s, input), []⟩) ∧
      ∀ more, afterMoves F more s = s) := by
  intro fresh s turns
  have tally := tally_moves F moves fresh
  have ended : s.terminated.toNat = turns.countP Turn.exits := tally.ended.trans (Nat.zero_add _)
  refine ⟨tally.counter, ?_, ended ▸ Bool.toNat_le _, fun closed =>
    ⟨execute_of_terminated closed F, fun _ _ _ => converse_of_terminated closed,
      afterMoves_of_terminated closed F⟩⟩
  calc s.terminated = true
      ↔ 0 < turns.countP Turn.exits := by rw [← ended]; cases s.terminated <;> simp
    _ ↔ ∃ turn ∈ turns, turn.result = .ok .exit := by
      rw [List.countP_pos_iff]
      simp only [Turn.exits_eq_true_iff]

/-- An empty line, a blank one, an `exit` read from a list, and a line after that. -/
theorem counter_through_exit :
    let F := Scripted.facility {}
    let fresh : Session Scripted.State := { facility := {}, sink := .boundless }
    let moves := [Move.line "", .line " ", .talk ListedLines.source ⟨[.line "exit", .line " "], []⟩,
      .line " "]
    let s := afterMoves F moves fresh
    s.counter = 2 ∧ s.terminated = true ∧
      execute F " " s = ⟨.error .terminated, s, []⟩ := by
  intro F fresh moves s
  obtain ⟨counter, closed, _, refused⟩ := counter_and_end F {} .boundless moves
  have turns : turnsOfMoves F moves fresh = [⟨"", .ok .completed⟩, ⟨" ", .ok .completed⟩,
      ⟨"exit", .ok .exit⟩, ⟨" ", .error .terminated⟩] := by
    cbv
  rw [turns] at counter closed
  have said := closed.2 ⟨⟨"exit", .ok .exit⟩, by simp, rfl⟩
  exact ⟨counter.trans (by decide), said, (refused said).1 _⟩

end CommandChains.Session
