import Mathlib
import CommandChains.Facility.Scripted
import CommandChains.Proofs.Input.Lines
import CommandChains.Proofs.Session.Comparison

/-!
# Bytes in any portions

How many bytes a source hands out at a time cannot be told from the lines that are read from
it. Two sources are level if the same bytes are ahead of them, they have come equally far and
they fail at the same place, whatever portions they hand out. A line is taken off level sources
with the same result, and it leaves them level (`ByteSource.related_takeLine`). The rest is a
matter of putting activities together, for the requests themselves are all that differs in the
journals.
-/

namespace CommandChains

variable {σ : Type}

/-! ## Requests -/

/-- Whether an entry tells of a request for bytes. -/
def Entry.isFetch : Entry → Bool
  | .fetched => true
  | _ => false

namespace Journal

def withoutFetches (j : Journal) : Journal :=
  j.filter fun e => !e.isFetch

/-- Two journals that differ in requests for bytes only. -/
def SameButFetches (j j' : Journal) : Prop :=
  j.withoutFetches = j'.withoutFetches

theorem congruence_sameButFetches : Congruence SameButFetches where
  refl _ := rfl
  append first second := by
    simp only [SameButFetches, withoutFetches, List.filter_append] at first second ⊢
    rw [first, second]

end Journal

namespace ByteSource

/-- Taking a line, nothing but requests is done. -/
theorem withoutFetches_takeLine (s : ByteSource) : (takeLine s).journal.withoutFetches = [] := by
  fun_induction takeLine s with
  | case1 => rfl
  | case2 => rfl
  | case3 => rfl
  | case4 s piece asked line through some_ shorter rest ih => exact ih

/-! ## Level sources -/

/-- Sources that hand out the same bytes, in whatever portions. -/
structure Level (s t : ByteSource) : Prop where
  unread : s.unread = t.unread
  failingAt : s.failingAt = t.failingAt
  consumed : s.consumed = t.consumed
  left : s.Sound
  right : t.Sound

variable {s t : ByteSource}

theorem Level.reach (level : s.Level t) : s.reach = t.reach := by
  rw [ByteSource.reach, ByteSource.reach, level.unread, level.failingAt, level.consumed]

theorem Level.fails (level : s.Level t) : s.fails = t.fails := by
  rw [ByteSource.fails, ByteSource.fails, level.unread, level.failingAt, level.consumed]

theorem Level.advance (level : s.Level t) {n : Nat} (within_ : n ≤ s.reach.length) :
    (s.advance n).Level (t.advance n) where
  unread := congrArg (List.drop n) level.unread
  failingAt := level.failingAt
  consumed := congrArg (· + n) level.consumed
  left := level.left.advance within_
  right := level.right.advance (level.reach ▸ within_)

/-- A line is taken off level sources alike, and it leaves them level. -/
theorem related_takeLine :
    Activity.Related Level Journal.SameButFetches takeLine takeLine := by
  intro s t level
  obtain ⟨j, _, taken⟩ := takeLine_run s level.left
  obtain ⟨k, _, taken'⟩ := takeLine_run t level.right
  rw [← level.reach, ← level.fails] at taken'
  have within_ := (Text.throughNewline_isPrefix s.reach).length_le
  refine ⟨?_, ?_, (withoutFetches_takeLine s).trans (withoutFetches_takeLine t).symm⟩
  · rw [taken, taken']
  · rw [taken, taken']
    exact level.advance within_

/-- Two fresh sources over the same bytes are level. -/
theorem level_of_portions (bytes : Text.Bytes) (failingAt : Option Nat) {chunk chunk' : Option Nat}
    (some_ : chunk ≠ some 0) (some_' : chunk' ≠ some 0) :
    Level { unread := bytes, chunk, failingAt } { unread := bytes, chunk := chunk', failingAt } :=
  ⟨rfl, rfl, rfl, ⟨some_, fun _ _ => Nat.zero_le _⟩, ⟨some_', fun _ _ => Nat.zero_le _⟩⟩

end ByteSource

/-! ## Reading and running -/

theorem World.eq_of_beside {w w' : World σ} (beside : World.Beside Eq Eq w w') : w = w' := by
  obtain ⟨facility, sink⟩ := w
  obtain ⟨rfl, rfl⟩ := beside
  rfl

theorem World.beside_eq : World.Beside (σ := σ) Eq Eq = Eq := by
  funext w w'
  exact propext ⟨World.eq_of_beside, fun same => same ▸ ⟨rfl, rfl⟩⟩

theorem Session.eq_of_beside {s s' : Session σ} (beside : Session.Beside Eq Eq s s') : s = s' := by
  obtain ⟨world, counter, terminated⟩ := s
  obtain ⟨worlds, rfl, rfl⟩ := beside
  obtain rfl : world = s'.toWorld := World.eq_of_beside worlds
  rfl

theorem Facility.comparable_self {J : Journal → Journal → Prop}
    (congruence : Journal.Congruence J) (F : Facility σ) : F.Comparable Eq Eq J F where
  congruence := congruence
  say _ := Activity.related_self congruence _
  awaitLast _ := World.beside_eq ▸ Activity.related_self congruence _
  launch _ := World.beside_eq ▸ Activity.related_self congruence _

namespace Prompted

/-- Prompted lines of level sources are read alike. -/
theorem related_next (prompt : String) :
    Activity.Related (WithInput Eq ByteSource.Level) Journal.SameButFetches (next prompt)
      (next prompt) := by
  have congruence := Journal.congruence_sameButFetches
  exact related_nextFrom congruence (fun _ => Activity.related_self congruence _)
    ByteSource.related_takeLine prompt

/-- Level sources are read and run alike. -/
theorem related_converse_source (F : Facility σ) :
    Activity.Related (WithInput (Session.Beside Eq Eq) ByteSource.Level) Journal.SameButFetches
      (Session.converse F source) (Session.converse F source) :=
  Session.related_converse (Facility.comparable_self Journal.congruence_sameButFetches F)
    fun prompt => source_beside.related source_beside (related_next prompt)

/-- What can be told from a performance that reads from a byte source by somebody who is not
told how the bytes were asked for. -/
structure Seen (S α : Type) where
  result : Except SessionError α
  state : S
  /-- What was done, in order, apart from requests for bytes. -/
  journal : Journal
  unread : Text.Bytes

def seen {S α : Type} (r : Run (S × ByteSource) SessionError α) : Seen S α :=
  ⟨r.result, r.state.1, r.journal.withoutFetches, r.state.2.unread⟩

theorem seen_of_related {S α : Type} {Q : S → S → Prop} (same : ∀ {s s'}, Q s s' → s = s')
    {r r' : Run (S × ByteSource) SessionError α}
    (related : r.Related (WithInput Q ByteSource.Level) Journal.SameButFetches r') :
    seen r = seen r' := by
  obtain ⟨result, ⟨beside, level⟩, journal⟩ := related
  rw [seen, seen, result, same beside, level.unread]
  exact congrArg (Seen.mk _ _ · _) journal

/-- The portions in which bytes are handed out cannot be told. Take any bytes, with a place at
which reading fails or without one, and two sources that hand them out in portions of different
sizes, or all at once. Lines are read from both, on any sink and with any prompts: reading by
reading, the result is the same, be it a line, the end of the lines or an error, and so are the
sink with its count of bytes and flushes, what was written and flushed, and the bytes that are
still unread. And if any session on any facility reads its lines from the one or the other, it
comes to the same end or error, having written, flushed, called, been answered and logged the
same, with the same session left behind and the same bytes unread. -/
theorem portions_unseen (bytes : Text.Bytes) (failingAt : Option Nat) {chunk chunk' : Option Nat}
    (some_ : chunk ≠ some 0) (some_' : chunk' ≠ some 0) :
    let input : ByteSource := { unread := bytes, chunk, failingAt }
    let input' : ByteSource := { unread := bytes, chunk := chunk', failingAt }
    (∀ (sink : Sink) (prompts : List String),
      (Activity.series next prompts (sink, input)).map seen =
        (Activity.series next prompts (sink, input')).map seen) ∧
    ∀ (F : Facility σ) (s : Session σ),
      seen (Session.converse F source (s, input)) =
        seen (Session.converse F source (s, input')) := by
  intro input input'
  have level : input.Level input' := ByteSource.level_of_portions bytes failingAt some_ some_'
  refine ⟨fun sink prompts => ?_, fun F s => ?_⟩
  · rw [← List.forall₂_eq_eq_eq, List.forall₂_map_left_iff, List.forall₂_map_right_iff]
    have start : WithInput Eq ByteSource.Level (sink, input) (sink, input') := ⟨rfl, level⟩
    exact (Activity.Related.series related_next prompts start).imp fun _ _ related =>
      seen_of_related id related
  · refine seen_of_related Session.eq_of_beside ?_
    exact related_converse_source F (s, input) (s, input') ⟨⟨⟨rfl, rfl⟩, rfl, rfl⟩, level⟩

/-- A character of two bytes, a carriage return before its newline and a place of failure in
the middle of a line: bytes handed out one at a time are read as if they came all at once. -/
theorem portions_unseen_inside_character :
    let whole : ByteSource := { unread := Text.Utf8.encode "é\r\nls &\nxy", failingAt := some 10 }
    let single : ByteSource := { whole with chunk := some 1 }
    let s : Session Scripted.State := { facility := {}, sink := .boundless }
    some 1 ≠ some 0 ∧ (none : Option Nat) ≠ some 0 ∧
      (Activity.series next ["> ", "> ", "> "] (s.sink, single)).map (fun r => r.result) =
        [.ok (some "é"), .ok (some "ls &"), .error (.system ByteSource.readFailure)] ∧
      seen (Session.converse (Scripted.facility {}) source (s, single)) =
        seen (Session.converse (Scripted.facility {}) source (s, whole)) := by
  intro whole single s
  have one : some 1 ≠ some 0 := by decide
  have all : (none : Option Nat) ≠ some 0 := by decide
  have atOnce : (Activity.series next ["> ", "> ", "> "] (s.sink, whole)).map (fun r => r.result) =
      [.ok (some "é"), .ok (some "ls &"), .error (.system ByteSource.readFailure)] := by
    dsimp only [whole, s]
    cbv
  obtain ⟨readings, talks⟩ := portions_unseen (σ := Scripted.State) whole.unread (some 10) one all
  have lines := congrArg (List.map Seen.result) (readings s.sink ["> ", "> ", "> "])
  simp only [List.map_map, Function.comp_def, seen] at lines
  exact ⟨one, all, lines.trans atOnce, talks (Scripted.facility {}) s⟩

end Prompted

end CommandChains
