import CommandChains.Activity
import CommandChains.SystemError
import CommandChains.Text.Lines

/-!
# Byte sources

Bytes come in pieces. A request hands out some of the bytes that have not been
read yet; handing out none means that there are no more. How much a request hands
out is up to the source. A source may fail once a certain number of bytes has
been read; the bytes before are handed out.

A line is read through its newline, or to the end of the bytes. Bytes of a line
that have been taken before a request fails are lost.
-/

namespace CommandChains

/-- Bytes to be read, and how they are handed out. -/
structure ByteSource where
  unread : Text.Bytes
  /-- The most bytes that one request hands out; without a bound, all there are. -/
  chunk : Option Nat := none
  /-- The number of bytes read at which requests fail, if they ever do. -/
  failingAt : Option Nat := none
  consumed : Nat := 0
  deriving DecidableEq, Repr

namespace ByteSource

def readFailure : SystemError := .text "read failed"

/-- The most bytes that the next request hands out, if there is a bound. -/
def portion? (s : ByteSource) : Option Nat :=
  match s.chunk, s.failingAt.map (· - s.consumed) with
  | some chunk, some left => some (min chunk left)
  | some chunk, none => some chunk
  | none, left => left

/-- Asks for bytes. They count as read only when they are taken. -/
def request (s : ByteSource) : Except SystemError Text.Bytes :=
  if s.failingAt = some s.consumed then .error readFailure
  else match s.portion? with
    | none => .ok s.unread
    | some n => .ok (s.unread.take n)

def advance (s : ByteSource) (n : Nat) : ByteSource :=
  { s with unread := s.unread.drop n, consumed := s.consumed + n }

theorem prefix_of_request {s : ByteSource} {piece : Text.Bytes}
    (h : s.request = .ok piece) : s.unread = piece ++ (s.advance piece.length).unread := by
  unfold request at h
  split at h
  · cases h
  · split at h
    · cases h
      simp [advance]
    · next n _ =>
      cases h
      rw [advance, List.length_take]
      by_cases short : n ≤ s.unread.length
      · rw [Nat.min_eq_left short, List.take_append_drop]
      · rw [Nat.min_eq_right (by omega), List.take_of_length_le (by omega), List.drop_length,
          List.append_nil]

theorem length_advance_lt {s : ByteSource} {piece : Text.Bytes}
    (h : s.request = .ok piece) (some_ : piece ≠ []) :
    (s.advance piece.length).unread.length < s.unread.length := by
  have whole := congrArg List.length (prefix_of_request h)
  have := List.length_pos_iff.2 some_
  rw [List.length_append] at whole
  omega

/-- Whether a byte does not end a line. -/
def insideLine (b : UInt8) : Bool := b != Text.newlineByte

/-- Takes the bytes through the next newline, or to the end. At the end there are
none. -/
def takeLine : Activity ByteSource SystemError Text.Bytes := fun s =>
  match asked : s.request with
  | .error e => ⟨.error e, s, [.fetched]⟩
  | .ok piece =>
    let line := piece.takeWhile insideLine
    if piece.drop line.length ≠ [] then
      ⟨.ok (line ++ [Text.newlineByte]), s.advance (line.length + 1), [.fetched]⟩
    else if none_ : piece = [] then ⟨.ok [], s, [.fetched]⟩
    else
      have : (s.advance piece.length).unread.length < s.unread.length :=
        length_advance_lt asked none_
      let rest := takeLine (s.advance piece.length)
      ⟨rest.result.map (piece ++ ·), rest.state, .fetched :: rest.journal⟩
termination_by s => s.unread.length

/-- A piece with a newline, cut behind the first one. -/
theorem prefix_through_newline {piece : Text.Bytes}
    (h : piece.drop (piece.takeWhile insideLine).length ≠ []) :
    piece = piece.takeWhile insideLine ++ Text.newlineByte ::
      piece.drop ((piece.takeWhile insideLine).length + 1) := by
  induction piece with
  | nil => simp at h
  | cons b rest ih =>
    by_cases inside : insideLine b = true
    · simp only [List.takeWhile_cons, inside, if_true, List.length_cons] at h ⊢
      simpa using ih h
    · have newline : b = Text.newlineByte := by simpa [insideLine] using inside
      subst newline
      simp [insideLine]

/-- The line that was taken stood in front of what is left. -/
theorem unread_of_takeLine {s s' : ByteSource} {bytes : Text.Bytes} {j : Journal}
    (h : takeLine s = ⟨.ok bytes, s', j⟩) : s.unread = bytes ++ s'.unread := by
  induction n : s.unread.length using Nat.strongRecOn generalizing s bytes j with
  | ind n ih =>
    unfold takeLine at h
    split at h
    · simp at h
    · next piece asked =>
      have whole := prefix_of_request asked
      dsimp only at h
      split at h
      · next newline =>
        simp only [Run.mk.injEq, Except.ok.injEq] at h
        obtain ⟨rfl, rfl, _⟩ := h
        have cut := prefix_through_newline newline
        generalize piece.takeWhile insideLine = line at cut
        generalize (s.advance piece.length).unread = after at whole
        rw [cut, List.append_assoc, List.cons_append] at whole
        simp only [advance]
        rw [whole, List.append_assoc, List.drop_append]
        simp
      · split at h
        · simp only [Run.mk.injEq, Except.ok.injEq] at h
          obtain ⟨rfl, rfl, _⟩ := h
          rfl
        · next some_ =>
          simp only [Run.mk.injEq] at h
          obtain ⟨result, state, _⟩ := h
          have shorter := length_advance_lt asked some_
          cases e : takeLine (s.advance piece.length) with
          | mk r t k =>
            rw [e] at result state
            cases r with
            | error x => simp [Except.map] at result
            | ok more =>
              simp only [Except.map, Except.ok.injEq] at result
              cases state
              rw [← result, whole, ih _ (n ▸ shorter) e rfl, List.append_assoc]

end ByteSource

end CommandChains
