import CommandChains.Input.LineSource
import CommandChains.Text.GraphemeCluster
import CommandChains.Text.Lines

/-!
# Lines without a terminal

The line editor, if there is no terminal to edit on. It reads plain lines and
shows no prompt. One newline is removed from a line, and one carriage return
before it; then the backspaces in it are carried out. A line that is not
well-formed text is an error.

A backspace in a line takes back what was written last. It goes by grapheme
clusters: each cluster that is written is remembered by its size, and a backspace
forgets the size remembered last and takes that many bytes off the end. Sizes are
remembered modulo 256, so of a very long cluster only a part is taken back. A
backspace with nothing to take back is dropped.
-/

namespace CommandChains.Unprompted

/-! ## Backspaces -/

def backspace : Char := '\x08'

structure Written where
  characters : List Char := []
  /-- The sizes of clusters that backspaces can take back, the last one first. -/
  sizes : List Nat := []
  deriving DecidableEq, Repr

namespace Written

/-- Sizes are remembered modulo this number. -/
def sizeModulus : Nat := 256

def sizeOf (text : List Char) : Nat :=
  text.foldl (fun size c => size + c.utf8Size) 0

def write (w : Written) (cluster : List Char) : Written :=
  ⟨cluster.reverse ++ w.characters, sizeOf cluster % sizeModulus :: w.sizes⟩

def takeBack (w : Written) : Written :=
  match w.sizes with
  | [] => w
  | n :: sizes => ⟨Text.dropBytes n w.characters, sizes⟩

def next (w : Written) (cluster : List Char) : Written :=
  if cluster = [backspace] then w.takeBack else w.write cluster

end Written

def carryOutBackspaces (line : List Char) : List Char :=
  ((Text.graphemeClusters line).foldl Written.next {}).characters.reverse

/-! ## Reading -/

variable {τ : Type}

def typed (text : String) : String :=
  String.ofList (carryOutBackspaces (Text.dropLineEnd text.toList))

/-- Reads a line, where `take` takes its bytes; none mean that there are no more. -/
def nextFrom (take : Activity τ SystemError Text.Bytes) :
    Activity (Sink × τ) SessionError (Option String) := do
  Activity.log .noTerminal
  let bytes ← (LineSource.onSource take).mapError .system
  if bytes.isEmpty then pure none
  else match Text.Utf8.decode? bytes with
    | none => Activity.fail .notText
    | some text => pure (some (typed text))

/-- A line was read, so bytes were taken for it. -/
theorem taken_of_nextFrom {take : Activity τ SystemError Text.Bytes} {line : String}
    {sink sink' : Sink} {t t' : τ} {j : Journal}
    (h : nextFrom take (sink, t) = ⟨.ok (some line), (sink', t'), j⟩) :
    ∃ bytes k, bytes ≠ [] ∧ take t = ⟨.ok bytes, t', k⟩ := by
  rw [nextFrom, Activity.bind_run_ok (Activity.log_run _ _)] at h
  cases taken : take t with
  | mk r u l =>
  cases r with
  | error e =>
    rw [Activity.bind_run_error (e := .system e) (t := (sink, u)) (j := l)
      (Activity.mapError_run_error (by simp [LineSource.onSource, Activity.within, taken]) _)] at h
    simp at h
  | ok bytes =>
    rw [Activity.bind_run_ok (x := bytes) (t := (sink, u)) (j := l)
      (Activity.mapError_run_ok (by simp [LineSource.onSource, Activity.within, taken]) _)] at h
    cases bytes with
    | nil => simp at h
    | cons b rest =>
      simp only [List.isEmpty_cons, Bool.false_eq_true, if_false] at h
      cases decoded : Text.Utf8.decode? (b :: rest) with
      | none => simp [decoded] at h
      | some text =>
        simp only [decoded, Activity.pure_run, Run.mk.injEq, Prod.mk.injEq] at h
        exact ⟨b :: rest, l, List.cons_ne_nil _ _, by rw [h.2.1.2]⟩

end CommandChains.Unprompted
